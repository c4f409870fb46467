/-
Checking a script and running it.

A command that the analysis lets through has the operand that its kind asks for (`Command.WellTyped`) and an accepted
key. Such a command is carried out or hindered (`hindrance_of_apply`), and `Hindrance` lists what can hinder it: a
stored text that is no number, is too large for one, or has no sum with the amount; a stored text that is no list; and an
item that cannot be written.

Main result, `checking_agrees_with_running`: the statements that a check reports are those that fail with an error in
their text, with the error that is reported; any other statement that runs is carried out or hindered. There is one
exception: a decrement by the least integer, which has no opposite, overflows without being hindered
(`least_amount_always_fails`).
-/
import ScopedStore.Proofs.Appending
import ScopedStore.Proofs.Confinement
import ScopedStore.Proofs.Policies
import ScopedStore.Proofs.Sentences

namespace ScopedStore

/-! ## Numbers -/

namespace Number

theorem toInt_bounds (i : Int64) : -0x8000000000000000 ≤ i.toInt ∧ i.toInt ≤ 0x7fffffffffffffff :=
  ⟨Int64.minValue_le_toInt i, Int64.toInt_le i⟩

/-- the least integer has no opposite, and it is the only number that has none -/
theorem neg?_eq_none {n : Number} : n.neg? = none ↔ n = .int Int64.minValue := by
  cases n with
  | double d => simp [neg?]
  | int i =>
    have hmin : Int64.minValue.toInt = -0x8000000000000000 := rfl
    have hi := toInt_bounds i
    simp only [neg?, Option.map_eq_none_iff, int64?_eq_none, OutOfRange, Number.int.injEq, ← Int64.toInt_inj, hmin]
    omega

/-- zero has a sum with every number -/
theorem zero_add?_ne_none (n : Number) : (Number.int 0).add? n ≠ none := by
  cases n with
  | double d => simp [add?]
  | int i =>
    have hzero : (0 : Int64).toInt = 0 := rfl
    have hi := toInt_bounds i
    simp only [add?, ne_eq, Option.map_eq_none_iff, int64?_eq_none, OutOfRange, hzero]
    omega

end Number

/-! ## What can hinder a command -/

namespace Command

/-- the operand is of the kind that the command works with -/
inductive WellTyped : Command → Prop where
  | set (k : Key) (operand : Operand) : WellTyped ⟨.set, k, some operand⟩
  | inc (k : Key) (n : Number) : WellTyped ⟨.inc, k, some (.number n)⟩
  | dec (k : Key) (n : Number) : WellTyped ⟨.dec, k, some (.number n)⟩
  | clear (k : Key) : WellTyped ⟨.clear, k, none⟩
  | append (compound : CompoundKind) (k : Key) (operand : Operand) : WellTyped ⟨compound.append, k, some operand⟩

/-- the command adds `delta` to a number -/
inductive Adds : Command → Number → Prop where
  | inc (k : Key) (n : Number) : Adds ⟨.inc, k, some (.number n)⟩ n
  | dec (k : Key) {n delta : Number} (opposite : n.neg? = some delta) : Adds ⟨.dec, k, some (.number n)⟩ delta

/-- the command is a decrement by the least integer, which has no opposite -/
def DecrementsLeast (c : Command) : Prop := c.kind = .dec ∧ c.operand = some (.number (.int Int64.minValue))

end Command

/-- what hinders a command: `data` are the stored texts, and `n` is the notation of lists and sets -/
inductive Hindrance (n : CompoundNotation) (data : Mapping) (c : Command) : CoercionError → Prop where
  /-- the stored text is no number -/
  | notNumeric {raw : String} {delta : Number} (adds : c.Adds delta) (stored : data[c.key]? = some raw)
      (unread : Number.read raw = none) (noDigits : Number.isIntegerLiteral raw = false) :
      Hindrance n data c (.notNumeric raw)
  /-- the stored text is an integer that no number type holds -/
  | unheld {raw : String} {delta : Number} (adds : c.Adds delta) (stored : data[c.key]? = some raw)
      (unread : Number.read raw = none) (digits : Number.isIntegerLiteral raw = true) :
      Hindrance n data c (.overflow raw delta.render)
  /-- the stored number has no sum with the amount -/
  | overflow {raw : String} {current delta : Number} (adds : c.Adds delta) (stored : data[c.key]? = some raw)
      (read : Number.read raw = some current) (noSum : current.add? delta = none) :
      Hindrance n data c (.overflow raw delta.render)
  /-- the stored text is no list -/
  | undecodable {raw : String} {flaw : CompoundFlaw} {compound : CompoundKind} (appends : c.kind = compound.append)
      (stored : data[c.key]? = some raw) (unread : n.decodeList raw = .error (.notCompound raw flaw)) :
      Hindrance n data c (.notCompound raw flaw)
  /-- the item holds the delimiter, and nothing marks it -/
  | item {operand : Operand} {delimiter : Char} {compound : CompoundKind} (appends : c.kind = compound.append)
      (given : c.operand = some operand) (unmarked : n = .delimited delimiter none)
      (holds : delimiter ∈ operand.text.toList) :
      Hindrance n data c (.notCompound operand.text (.containsDelimiter delimiter))

theorem CompoundNotation.decodeList_eq_error {n : CompoundNotation} {raw : String} {cause : CoercionError}
    (h : n.decodeList raw = .error cause) : ∃ flaw, cause = .notCompound raw flaw := by
  unfold decodeList at h
  split_ifs at h
  split at h
  · split at h
    · cases h
    · exact ⟨_, (Except.error.inj h).symm⟩
  · split at h
    · obtain ⟨flaw, -, rfl⟩ := Result.mapError_eq_error.1 h
      exact ⟨flaw, rfl⟩
    · exact ⟨_, (Except.error.inj h).symm⟩

namespace Store

open Attempt

variable {s : Store} {c : Command}

/-- an absent key counts as zero, which has a sum with every amount -/
theorem hindrance_of_addToText {delta : Number} {cause : CoercionError} (hc : c.Adds delta)
    (h : addToText (s.data.getD c.key "0") delta = .error cause) : Hindrance s.compound s.data c cause := by
  rw [Std.ExtTreeMap.getD_eq_getD_getElem?] at h
  unfold addToText at h
  cases hstored : s.data[c.key]? with
  | none =>
    have hzero : Number.read "0" = some (.int 0) := by decide
    rw [hstored, Option.getD_none, hzero] at h
    split at h
    · rename_i current hcurrent
      obtain rfl := Option.some.inj hcurrent
      split at h
      · cases h
      · rename_i hnone
        exact absurd hnone (Number.zero_add?_ne_none delta)
    · rename_i hnone
      cases hnone
  | some raw =>
    rw [hstored, Option.getD_some] at h
    split at h
    · rename_i current hcurrent
      split at h
      · cases h
      · rename_i hnone
        obtain rfl := Except.error.inj h
        exact .overflow hc hstored hcurrent hnone
    · rename_i hunread
      split_ifs at h with hdigits
      · obtain rfl := Except.error.inj h
        exact .unheld hc hstored hunread hdigits
      · obtain rfl := Except.error.inj h
        exact .notNumeric hc hstored hunread (Bool.eq_false_iff.2 hdigits)

/-- the items that are there already can be written again, so only the new one can be refused -/
theorem hindrance_of_appended {compound : CompoundKind} {operand : Operand} {error : StoreError}
    (hk : c.kind = compound.append) (ho : c.operand = some operand)
    (h : appended compound operand.text s c.key = .error error) :
    ∃ cause, error = .coercion cause ∧ Hindrance s.compound s.data c cause := by
  rcases Result.bind_eq_error.1 h with h | ⟨items, hitems, h⟩
  · cases hstored : s.data[c.key]? with
    | none =>
      rw [hstored] at h
      cases h
    | some raw =>
      rw [hstored] at h
      obtain ⟨cause, hcause, rfl⟩ := Result.mapError_eq_error.1 (Result.map_eq_error.1 h)
      obtain ⟨flaw, rfl⟩ := CompoundNotation.decodeList_eq_error hcause
      exact ⟨_, rfl, .undecodable hk hstored hcause⟩
  · obtain ⟨cause, hcause, rfl⟩ := Result.mapError_eq_error.1 h
    obtain ⟨delimiter, item, hn, hfind, rfl⟩ := CompoundNotation.encodeList_eq_error.1 hcause
    have hholds : delimiter ∈ item.toList := by simpa using List.find?_some hfind
    have hmem : item ∈ items ∨ item = operand.text := by
      simpa using CompoundKind.mem_keep.1 (List.mem_of_find?_eq_some hfind)
    rcases hmem with hmem | rfl
    · exact absurd ⟨delimiter, hn, hholds⟩ (not_refuses_of_contents hitems item hmem)
    · exact ⟨_, rfl, .item hk ho hn hholds⟩

/-! ## Commands -/

/-- **Only a hindrance makes a well-typed command on an accepted key fail**, a decrement by the least integer apart. -/
theorem hindrance_of_apply {time : Nat} {error : StoreError} (hc : c.WellTyped) (ha : s.keys.Accepts c.key)
    (h : (apply time c s).1 = .error error) :
    ∃ cause, error = .coercion cause ∧
      (Hindrance s.compound s.data c cause ∨ c.DecrementsLeast ∧ ∃ raw delta, cause = .overflow raw delta) := by
  have hk : s.resolve (.key c.key) = .ok c.key := Result.mapError_eq_ok.2 (KeyRules.resolve_key ha)
  cases hc with
  | set k operand =>
    have hset := Result.map_eq_error.1 ((map_result (set time (.key k) operand.text) _ s).symm.trans h)
    have hrevise := Result.map_eq_error.1 ((map_result (revise time .set (.key k) _) _ s).symm.trans hset)
    rw [result_revise hk] at hrevise
    cases hrevise
  | inc k n =>
    have hinc := Result.map_eq_error.1 ((map_result (increment time (.key k) n) _ s).symm.trans h)
    obtain ⟨cause, hcause, rfl⟩ := Result.mapError_eq_error.1 ((result_revise hk time .increment _).symm.trans hinc)
    exact ⟨cause, rfl, .inl (hindrance_of_addToText (.inc k n) hcause)⟩
  | dec k n =>
    have hdec := Result.map_eq_error.1 ((map_result (decrement time (.key k) n) _ s).symm.trans h)
    unfold decrement at hdec
    cases hn : n.neg? with
    | none =>
      rw [hn] at hdec
      obtain rfl := Number.neg?_eq_none.1 hn
      obtain rfl := Except.error.inj hdec
      exact ⟨_, rfl, .inr ⟨⟨rfl, rfl⟩, _, _, rfl⟩⟩
    | some delta =>
      rw [hn] at hdec
      obtain ⟨cause, hcause, rfl⟩ := Result.mapError_eq_error.1 ((result_revise hk time .decrement _).symm.trans hdec)
      exact ⟨cause, rfl, .inl (hindrance_of_addToText (.dec k hn) hcause)⟩
  | clear k =>
    have hclear := Result.map_eq_error.1 ((map_result (clear time (.key k)) _ s).symm.trans h)
    have hexchange : clear time (.key k) s = exchange (·.clearKey time k) s := clear_of_accepted hk time
    rw [hexchange] at hclear
    cases hclear
  | append compound k operand =>
    have happly : (apply time ⟨compound.append, k, some operand⟩ s).1 =
        (append time compound (.key k) operand.text s).1.map some := by
      cases compound <;> exact map_result _ _ s
    have happend := Result.map_eq_error.1 (happly.symm.trans h)
    rw [append_eq_revise, result_revise hk] at happend
    obtain ⟨cause, hcause, hhindrance⟩ := hindrance_of_appended rfl rfl happend
    exact ⟨cause, hcause, .inl hhindrance⟩

end Store

/-! ## Statements -/

/-- the error is in the text of a statement: it cannot be read, or it is no command -/
inductive StoreError.InText : StoreError → Prop where
  | lex (e : Script.LexError) : InText (.lex e)
  | semantic (e : SemanticError) : InText (.semantic e)

namespace Dialect

theorem wellTyped_of_completes {d : Dialect} {k : Key} {kind : CommandKind} {tokens : List Script.TokenKind}
    {c : Command} (h : d.Completes k kind tokens c) : c.WellTyped := by
  cases h with
  | clear => exact .clear k
  | inc read => exact .inc k _
  | dec read => exact .dec k _
  | listAppend value => exact .append .list k _
  | setAppend value => exact .append .set k _
  | setTo value => exact .set k _
  | set value =>
    unfold inferredKind
    split
    · exact .append .list k _
    · exact .append .set k _
    · exact .set k _

variable {d : Dialect} {script : String} {x : PreparedStatement}

theorem command_of_prepare {c : Command} (hx : x ∈ (d.prepare script).statements) (hc : x.command = .ok c) :
    c.WellTyped ∧ d.keys.Accepts c.key := by
  obtain ⟨s, -, rfl⟩ := List.mem_map.1 hx
  simp only [Script.Statement.command] at hc
  split at hc
  · obtain ⟨kind, k, operands, -, ha, hcompletes, -⟩ := analyze_eq_ok.1 (Result.mapError_eq_ok.1 hc)
    exact ⟨wellTyped_of_completes hcompletes, hcompletes.key ▸ ha⟩
  · cases hc

theorem inText_of_prepare {error : StoreError} (hx : x ∈ (d.prepare script).statements)
    (hc : x.command = .error error) : error.InText := by
  obtain ⟨s, -, rfl⟩ := List.mem_map.1 hx
  simp only [Script.Statement.command] at hc
  split at hc
  · obtain ⟨e, -, rfl⟩ := Result.mapError_eq_error.1 hc
    exact .semantic e
  · obtain rfl := Except.error.inj hc
    exact .lex _

/-- statements carry their places -/
theorem index_of_prepare {i : Nat} (hx : (d.prepare script).statements[i]? = some x) : x.index = i := by
  simp only [prepare, Script.lex_eq, List.getElem?_map, List.getElem?_mapIdx, Option.map_map, Option.map_eq_some_iff] at hx
  obtain ⟨segment, -, rfl⟩ := hx
  rfl

/-- what a check reports for a place is what is wrong with the statement there -/
theorem mem_errors_prepare {i : Nat} {error : StoreError} : (i, error) ∈ (d.prepare script).errors ↔
    ∃ x, (d.prepare script).statements[i]? = some x ∧ x.command = .error error := by
  unfold PreparedScript.errors
  rw [List.mem_filterMap]
  constructor
  · rintro ⟨x, hx, hc⟩
    obtain ⟨j, hj⟩ := List.mem_iff_getElem?.1 hx
    cases hcommand : x.command with
    | ok c =>
      rw [hcommand] at hc
      cases hc
    | error err =>
      rw [hcommand] at hc
      obtain ⟨rfl, rfl⟩ := Prod.mk.inj (Option.some.inj hc)
      exact ⟨x, index_of_prepare hj ▸ hj, hcommand⟩
  · rintro ⟨x, hx, hc⟩
    exact ⟨x, List.mem_of_getElem? hx, by rw [hc, index_of_prepare hx]⟩

end Dialect

namespace Store

theorem stops_take_iff {policy : ErrorPolicy} {outcomes : List StatementOutcome} {i : Nat} :
    stops policy (outcomes.take i) ↔
      policy = .abortRemaining ∧ ∃ j < i, ∃ o, outcomes[j]? = some o ∧ isFailure o.status := by
  simp only [stops, Bool.and_eq_true, decide_eq_true_eq, List.any_eq_true, List.mem_iff_getElem?, List.getElem?_take]
  constructor
  · rintro ⟨⟨o, ⟨j, hj⟩, ho⟩, hp⟩
    split_ifs at hj with hji
    exact ⟨hp, j, hji, o, hj, ho⟩
  · rintro ⟨hp, j, hji, o, hj, ho⟩
    exact ⟨⟨o, ⟨j, by rw [if_pos hji, hj]⟩, ho⟩, hp⟩

/-- a statement with a command is carried out, or the command fails -/
theorem applyStatement_of_ok {s : Store} {time : Nat} {x : PreparedStatement} {c : Command} (hc : x.command = .ok c) :
    (∃ value, (s.applyStatement time x).1 = .applied c.key value) ∨
      ∃ error, (apply time c s).1 = .error error ∧ (s.applyStatement time x).1 = .failed error := by
  simp only [applyStatement, hc]
  rcases apply time c s with ⟨error | value, t⟩
  · exact .inr ⟨error, rfl, rfl⟩
  · exact .inl ⟨value, rfl⟩

end Store

/-! ## Main result -/

open Engine Store

/-- the outcome at place `i` is what the check lets expect of a statement that runs on the mapping `data` -/
structure Engine.AsChecked (e : Engine) (checked : PreparedScript) (data : Mapping) (i : Nat) (o : StatementOutcome) :
    Prop where
  /-- what is reported is what goes wrong with the text of the statement -/
  reported : ∀ error, error.InText ∧ o.status = .failed error ↔ (i, error) ∈ checked.errors
  /-- otherwise the statement has a command, which is carried out or hindered, or overflows for its least amount -/
  passed : (∀ error, (i, error) ∉ checked.errors) → ∃ x c, checked.statements[i]? = some x ∧ x.command = .ok c ∧
    ((∃ value, o.status = .applied c.key value) ∨ ∃ cause, o.status = .failed (.coercion cause) ∧
      (Hindrance e.store.compound data c cause ∨ c.DecrementsLeast ∧ ∃ raw delta, cause = .overflow raw delta))

theorem Engine.Inv.asChecked {e : Engine} (hi : Inv e) {script : String} {i : Nat} {x : PreparedStatement}
    (hx : (e.prepare script).statements[i]? = some x) {t : Store} (ht : Frame { e.store with source := .query } t)
    (time : Nat) : e.AsChecked (e.prepare script) t.data i ⟨x.index, x.text, (t.applyStatement time x).1⟩ := by
  have hmem := List.mem_of_getElem? hx
  have hreported : ∀ error, (i, error) ∈ (e.prepare script).errors ↔ x.command = .error error := by
    intro error
    rw [prepare, Dialect.mem_errors_prepare]
    exact ⟨fun ⟨y, hy, hc⟩ => Option.some.inj (hx.symm.trans hy) ▸ hc, fun hc => ⟨x, hx, hc⟩⟩
  cases hc : x.command with
  | error err =>
    have hstatus : (t.applyStatement time x).1 = .failed err := by rw [applyStatement_of_error hc]
    have hin : err.InText := Dialect.inText_of_prepare hmem hc
    refine ⟨fun error => ?_, fun hnone => absurd ((hreported err).2 hc) (hnone err)⟩
    rw [hreported, hc, hstatus]
    constructor
    · rintro ⟨-, h⟩
      rw [StatementStatus.failed.inj h]
    · intro h
      obtain rfl := Except.error.inj h
      exact ⟨hin, rfl⟩
  | ok c =>
    obtain ⟨htyped, haccepts⟩ := Dialect.command_of_prepare hmem hc
    have hkeys : e.dialect.keys = t.keys := by rw [ht.keys, hi.dialect]; rfl
    have hcompound : t.compound = e.store.compound := congrArg Config.compoundNotation ht.config
    have hran : (∃ value, (t.applyStatement time x).1 = .applied c.key value) ∨ ∃ cause,
        (t.applyStatement time x).1 = .failed (.coercion cause) ∧
          (Hindrance e.store.compound t.data c cause ∨ c.DecrementsLeast ∧ ∃ raw delta, cause = .overflow raw delta) := by
      refine (applyStatement_of_ok hc).imp_right fun ⟨error, herror, hstatus⟩ => ?_
      obtain ⟨cause, rfl, hcause⟩ := hindrance_of_apply htyped (hkeys ▸ haccepts) herror
      exact ⟨cause, hstatus, hcompound ▸ hcause⟩
    refine ⟨fun error => ?_, fun _ => ⟨x, c, hx, hc, hran⟩⟩
    rw [hreported, hc]
    constructor
    · rintro ⟨hin, h⟩
      rcases hran with ⟨value, hstatus⟩ | ⟨cause, hstatus, -⟩
      · cases hstatus.symm.trans h
      · obtain rfl := StatementStatus.failed.inj (hstatus.symm.trans h)
        cases hin
    · exact nofun

theorem Engine.length_outcomes (e : Engine) (time : Nat) (script : String) (policy : ErrorPolicy) :
    (e.runScriptWith time script policy).1.outcomes.length = (e.prepare script).statements.length := by
  rw [outcomes_runScriptWith, execute, length_runStatements]

/-- an outcome stands at the place of its statement; the statement is passed over when one before it has failed and the
policy is to stop, and otherwise it goes as the check lets expect -/
theorem Engine.Inv.outcome_asChecked {e : Engine} (hi : Inv e) {time : Nat} {script : String} {policy : ErrorPolicy}
    {i : Nat} {o : StatementOutcome} (ho : (e.runScriptWith time script policy).1.outcomes[i]? = some o) :
    o.index = i ∧
      (o.status = .notRun ↔ policy = .abortRemaining ∧ ∃ j < i, ∃ failed,
        (e.runScriptWith time script policy).1.outcomes[j]? = some failed ∧ isFailure failed.status) ∧
      (o.status ≠ .notRun → e.AsChecked (e.prepare script)
        (e.store.execute time ⟨(e.prepare script).statements.take i⟩ policy).2.data i o) := by
  have hlt : i < (e.prepare script).statements.length :=
    e.length_outcomes time script policy ▸ (List.getElem?_eq_some_iff.1 ho).1
  have hx := List.getElem?_eq_getElem hlt
  have hget := getElem?_runStatements hx policy time { e.store with source := .query }
  have houtcomes : (e.runScriptWith time script policy).1.outcomes =
      (runStatements policy time false { e.store with source := .query } (e.prepare script).statements).1 :=
    outcomes_runScriptWith e time script policy
  rw [← houtcomes, ho] at hget
  obtain rfl := Option.some.inj hget
  rw [← stops_take_iff, houtcomes, take_runStatements]
  refine ⟨Dialect.index_of_prepare hx, ?_, ?_⟩
  · split_ifs with hs
    · simp [hs]
    · simp [hs, status_applyStatement_ne_notRun]
  · intro hran
    split_ifs at hran ⊢ with hs
    · exact absurd rfl hran
    · exact hi.asChecked hx (frame_runStatements policy time _ _) time

/-- where nothing is reported, a statement fails because it is hindered, a decrement by the least integer apart -/
theorem Engine.AsChecked.hindrance {e : Engine} {checked : PreparedScript} {data : Mapping} {i : Nat}
    {o : StatementOutcome} (h : e.AsChecked checked data i o) (hnone : ∀ error, (i, error) ∉ checked.errors)
    (hspared : ∀ x ∈ checked.statements, ∀ c, x.command = .ok c → ¬c.DecrementsLeast) {error : StoreError}
    (hfailed : o.status = .failed error) :
    ∃ x c cause, checked.statements[i]? = some x ∧ x.command = .ok c ∧ error = .coercion cause ∧
      Hindrance e.store.compound data c cause := by
  obtain ⟨x, c, hx, hc, ⟨value, hstatus⟩ | ⟨cause, hstatus, hcause | ⟨hleast, -⟩⟩⟩ := h.passed hnone
  · cases hstatus.symm.trans hfailed
  · exact ⟨x, c, cause, hx, hc, StatementStatus.failed.inj (hfailed.symm.trans hstatus), hcause⟩
  · exact absurd hleast (hspared x (List.mem_of_getElem? hx) c hc)

/-- **Checking agrees with running.** Whatever the script and the policy, there is one outcome for every statement; a
statement is passed over just when one before it has failed and the policy is to stop. Any other statement fails with
an error in its text just when the check reports that error for its place; if it reports none, the statement is
carried out, or it is hindered by what the statements before it leave stored or by the item that it appends, or it is a
decrement by the least integer and overflows. So when the check finds no error in a script and no statement is such a
decrement, only stored texts and appended items can make it fail. -/
theorem checking_agrees_with_running {e : Engine} (h : Reachable e) (time : Nat) (script : String)
    (policy : ErrorPolicy) :
    let checked := e.prepare script
    let outcomes := (e.runScriptWith time script policy).1.outcomes
    let before := fun i => (e.store.execute time ⟨checked.statements.take i⟩ policy).2.data
    outcomes.length = checked.statements.length ∧
      (∀ i o, outcomes[i]? = some o → o.index = i ∧
        (o.status = .notRun ↔
          policy = .abortRemaining ∧ ∃ j < i, ∃ failed, outcomes[j]? = some failed ∧ isFailure failed.status) ∧
        (o.status ≠ .notRun → e.AsChecked checked (before i) i o)) ∧
      (checked.errors = [] → (∀ x ∈ checked.statements, ∀ c, x.command = .ok c → ¬c.DecrementsLeast) →
        ∀ i o error, outcomes[i]? = some o → o.status = .failed error →
          ∃ x c cause, checked.statements[i]? = some x ∧ x.command = .ok c ∧ error = .coercion cause ∧
            Hindrance e.store.compound (before i) c cause) := by
  intro checked outcomes before
  refine ⟨e.length_outcomes time script policy, fun i o ho => h.inv.outcome_asChecked ho, ?_⟩
  intro hnone hspared i o error ho hfailed
  obtain ⟨-, -, hchecked⟩ := h.inv.outcome_asChecked ho
  have hran : o.status ≠ .notRun := by
    rw [hfailed]
    exact nofun
  exact (hchecked hran).hindrance (by simp [checked, hnone]) hspared hfailed

/-- a statement without its amount, digits that are too many for a counter, and a counter that is asked to count them -/
def sampleMistakes : String := "inc env:a; set env:a 99999999999999999999; inc env:a 1; clear env:a"

/-- the same without the mistake in the text -/
def sampleHindered : String := "set env:a 99999999999999999999; inc env:a 1; clear env:a"

/-- an amount that is missing is reported and fails; a counter that cannot count is not reported, and is hindered -/
theorem sample_checking_agrees_with_running :
    (let checked := sample.prepare sampleMistakes
      let outcomes := (sample.runScriptWith 1 sampleMistakes .skipAndContinue).1.outcomes
      let before := fun i => (sample.store.execute 1 ⟨checked.statements.take i⟩ .skipAndContinue).2.data
      checked.errors = [(0, .semantic (.arity "inc" "one number" 0))] ∧
        outcomes.map (·.status) = [.failed (.semantic (.arity "inc" "one number" 0)),
          .applied ⟨"env", "a"⟩ (some "99999999999999999999"),
          .failed (.coercion (.overflow "99999999999999999999" "1")), .applied ⟨"env", "a"⟩ none] ∧
        ∀ i o, outcomes[i]? = some o → sample.AsChecked checked (before i) i o) ∧
    let checked := sample.prepare sampleHindered
    checked.errors = [] ∧ ∃ x c cause, checked.statements[1]? = some x ∧ x.command = .ok c ∧
      Hindrance sample.store.compound (sample.store.execute 1 ⟨checked.statements.take 1⟩ .skipAndContinue).2.data c
        cause := by
  constructor
  · have hstatus : (sample.runScriptWith 1 sampleMistakes .skipAndContinue).1.outcomes.map (·.status) =
        [.failed (.semantic (.arity "inc" "one number" 0)), .applied ⟨"env", "a"⟩ (some "99999999999999999999"),
          .failed (.coercion (.overflow "99999999999999999999" "1")), .applied ⟨"env", "a"⟩ none] := by decide +kernel
    refine ⟨by decide +kernel, hstatus, fun i o ho => ?_⟩
    have hran : o.status ≠ .notRun := by
      have hmem := List.mem_map_of_mem (f := (·.status)) (List.mem_of_getElem? ho)
      rw [hstatus] at hmem
      rintro hnot
      rw [hnot] at hmem
      simp at hmem
    obtain ⟨-, hplaces, -⟩ := checking_agrees_with_running reachable_sample 1 sampleMistakes .skipAndContinue
    exact (hplaces i o ho).2.2 hran
  · have hnone : (sample.prepare sampleHindered).errors = [] := by decide +kernel
    have hkinds : ∀ x ∈ (sample.prepare sampleHindered).statements,
        x.command.toOption.map (·.kind) ≠ some .dec := by decide +kernel
    have hfailed : (sample.runScriptWith 1 sampleHindered .skipAndContinue).1.outcomes[1]? =
        some ⟨1, "inc env:a 1", .failed (.coercion (.overflow "99999999999999999999" "1"))⟩ := by decide +kernel
    obtain ⟨-, -, hhindered⟩ := checking_agrees_with_running reachable_sample 1 sampleHindered .skipAndContinue
    have hspared : ∀ x ∈ (sample.prepare sampleHindered).statements, ∀ c, x.command = .ok c → ¬c.DecrementsLeast := by
      rintro x hx c hc ⟨hdec, -⟩
      exact hkinds x hx (by rw [hc]; exact congrArg some hdec)
    obtain ⟨x, c, cause, hx, hc, -, hcause⟩ := hhindered hnone hspared 1 _ _ hfailed rfl
    exact ⟨hnone, x, c, cause, hx, hc, hcause⟩

/-- a decrement by the least 64-bit integer -/
def leastDecrement : String := "dec env:a -9223372036854775808"

/-- the check finds nothing, nothing is stored, and nothing is appended to a list or set; the statement fails
nevertheless, and its command fails on every store -/
theorem least_amount_always_fails :
    let c : Command := ⟨.dec, ⟨"env", "a"⟩, some (.number (.int Int64.minValue))⟩
    Reachable sample ∧ (sample.prepare leastDecrement).errors = [] ∧
      (sample.prepare leastDecrement).statements.map (·.command) = [.ok c] ∧ sample.store.data.isEmpty ∧
      (sample.runScriptWith 1 leastDecrement .skipAndContinue).1.outcomes.map (·.status) =
        [.failed (.coercion (.overflow "0" "--9223372036854775808"))] ∧
      ∀ s time, (Store.apply time c s).1 = .error (.coercion (.overflow "0" "--9223372036854775808")) := by
  refine ⟨reachable_sample, by decide +kernel, by decide +kernel, by decide +kernel, by decide +kernel, ?_⟩
  intro s time
  have hfails : decrement time (.key ⟨"env", "a"⟩) (.int Int64.minValue) s =
      (.error (.coercion (.overflow "0" "--9223372036854775808")), s) := by
    unfold decrement
    rw [Number.neg?_eq_none.2 rfl]
    rfl
  refine (Attempt.map_result (decrement time (.key ⟨"env", "a"⟩) (.int Int64.minValue)) some s).trans ?_
  rw [hfails]
  rfl

end ScopedStore
