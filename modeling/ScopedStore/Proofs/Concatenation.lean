/-
Running two scripts as one.

`applyStatement_shift`, `runStatements_shift`: statements that are put behind others do what they did, and what is
told of them is shifted. `execute_append`: so a script that is put together from two does what the two do one after
the other, unless the first one stops it.

Main result, `scripts_compose`: cutting a script at a semicolon cuts its statements, its outcomes and its changes.
-/
import ScopedStore.Proofs.Appending
import ScopedStore.Proofs.Confinement
import ScopedStore.Proofs.Policies
import ScopedStore.Proofs.Splicing
import ScopedStore.Proofs.Untimed

namespace ScopedStore

/-! ## Faults in the text -/

namespace Attempt

variable {σ α β : Type}

/-- there is no failure that is about a place in a script -/
def Placeless (x : Attempt σ α) : Prop := ∀ s e t, x s ≠ (.error (.lex e), t)

theorem Certain.placeless {x : Attempt σ α} (hx : Certain x) : Placeless x := fun s e t => hx s (.lex e) t

theorem placeless_look {g : σ → Except StoreError α} (h : ∀ s e, g s ≠ .error (.lex e)) : Placeless (look g) :=
  fun s e _ hs => h s e (look_eq.1 hs).1

theorem Placeless.bind {x : Attempt σ α} {f : α → Attempt σ β} (hx : Placeless x) (hf : ∀ a, Placeless (f a)) :
    Placeless (x >>= f) := by
  intro s e u h
  rcases bind_eq_error.1 h with h | ⟨a, t, -, h⟩
  · exact hx s e u h
  · exact hf a t e u h

end Attempt

namespace Store

open Attempt

theorem mapError_coercion_ne_lex {α : Type} (r : Except CoercionError α) (e : Script.LexError) :
    r.mapError StoreError.coercion ≠ .error (.lex e) := by
  intro h
  obtain ⟨cause, -, h⟩ := Result.mapError_eq_error.1 h
  cases h

theorem resolve_ne_lex (s : Store) (k : KeyRef) (e : Script.LexError) : s.resolve k ≠ .error (.lex e) := by
  intro h
  obtain ⟨cause, -, h⟩ := Result.mapError_eq_error.1 h
  cases h

theorem listOf_ne_lex (s : Store) (old : Option String) (e : Script.LexError) : s.listOf old ≠ .error (.lex e) := by
  cases old with
  | none => exact nofun
  | some raw => exact mapError_coercion_ne_lex _ e

theorem appended_ne_lex (kind : CompoundKind) (x : String) (s : Store) (k : Key) (e : Script.LexError) :
    appended kind x s k ≠ .error (.lex e) := by
  intro h
  rcases Result.bind_eq_error.1 h with h | ⟨items, -, h⟩
  · exact listOf_ne_lex s _ e (Result.map_eq_error.1 h)
  · exact mapError_coercion_ne_lex _ e h

theorem placeless_revise (time : Nat) (operation : Operation) (k : KeyRef) {f : Store → Key → Except StoreError String}
    (hf : ∀ s k e, f s k ≠ .error (.lex e)) : Placeless (revise time operation k f) :=
  (placeless_look fun s => resolve_ne_lex s k).bind fun k => (placeless_look (hf · k)).bind fun raw =>
    ((certain_change _).bind fun _ => certain_pure raw).placeless

theorem placeless_set (time : Nat) (k : KeyRef) (raw : String) : Placeless (set time k raw) := by
  refine (placeless_revise time .set k fun s k e h => ?_).bind fun _ => (certain_pure ()).placeless
  cases h

theorem placeless_clear (time : Nat) (k : KeyRef) : Placeless (clear time k) :=
  (placeless_look fun s => resolve_ne_lex s k).bind fun _ => (certain_exchange _).placeless

theorem placeless_transform (time : Nat) (operation : Operation) (k : KeyRef) (delta : Number) :
    Placeless (transform time operation k delta) :=
  placeless_revise time operation k fun _ _ => mapError_coercion_ne_lex _

theorem placeless_decrement (time : Nat) (k : KeyRef) (amount : Number) : Placeless (decrement time k amount) := by
  unfold decrement
  cases amount.neg? with
  | some delta => exact placeless_transform time .decrement k delta
  | none => exact fun s e t h => nomatch (fail_eq.1 h).1

theorem placeless_append (time : Nat) (kind : CompoundKind) (k : KeyRef) (item : String) :
    Placeless (append time kind k item) := by
  rw [append_eq_revise]
  exact placeless_revise time kind.operation k (appended_ne_lex kind item)

/-- carrying out a command finds no fault in the text of a script -/
theorem placeless_apply (time : Nat) (c : Command) : Placeless (apply time c) := by
  obtain ⟨kind, key, operand⟩ := c
  unfold apply
  simp only
  split
  · exact (placeless_clear time _).bind fun _ => (certain_pure none).placeless
  · exact (placeless_set time _ _).bind fun _ => (certain_pure _).placeless
  · exact (placeless_transform time .increment _ _).bind fun raw => (certain_pure (some raw)).placeless
  · exact (placeless_decrement time _ _).bind fun raw => (certain_pure (some raw)).placeless
  · exact (placeless_append time .list _ _).bind fun raw => (certain_pure (some raw)).placeless
  · exact (placeless_append time .set _ _).bind fun raw => (certain_pure (some raw)).placeless
  · exact fun s e t h => nomatch (fail_eq.1 h).1

end Store

/-! ## Statements -/

def StatementStatus.shift (offset : Nat) : StatementStatus → StatementStatus
  | .failed e => .failed (e.shift offset)
  | status => status

/-- the outcome with `count` statements and `offset` characters in front of the script -/
def StatementOutcome.shift (count offset : Nat) (o : StatementOutcome) : StatementOutcome :=
  ⟨o.index + count, o.text, o.status.shift offset⟩

namespace Store

theorem isFailure_shift (offset : Nat) (status : StatementStatus) :
    isFailure (status.shift offset) = isFailure status := by
  cases status <;> rfl

theorem applyStatement_shift (s : Store) (time count offset : Nat) (x : PreparedStatement) :
    s.applyStatement time (x.shift count offset) =
      ((s.applyStatement time x).1.shift offset, (s.applyStatement time x).2) := by
  obtain ⟨index, text, e | c⟩ := x
  · rfl
  · have hlex := placeless_apply time c s
    simp only [PreparedStatement.shift, Except.mapError, applyStatement]
    rcases hr : apply time c s with ⟨err | value, t⟩
    · cases err with
      | lex e => exact absurd hr (hlex e t)
      | key e => rfl
      | coercion e => rfl
      | semantic e => rfl
      | config e => rfl
      | unknownSavepoint id => rfl
      | conflict text => rfl
    · rfl

/-- **Statements that are put behind others do what they did.** -/
theorem runStatements_shift (policy : ErrorPolicy) (time count offset : Nat) (aborted : Bool) (s : Store)
    (l : List PreparedStatement) :
    let run := runStatements policy time aborted s l
    runStatements policy time aborted s (l.map (PreparedStatement.shift count offset)) =
      (run.1.map (StatementOutcome.shift count offset), run.2) := by
  induction l generalizing aborted s with
  | nil => cases aborted <;> rfl
  | cons x l ih =>
    cases aborted with
    | true =>
      simp only [List.map_cons, runStatements, ih]
      rfl
    | false =>
      simp only [List.map_cons, runStatements, applyStatement_shift, isFailure_shift, ih]
      rfl

/-! ## Scripts -/

/-- a second script finds the store as the first one leaves it to its own next statement -/
theorem asQuery_execute (s : Store) (time : Nat) (script : PreparedScript) (policy : ErrorPolicy) :
    { (s.execute time script policy).2 with source := .query } =
      (runStatements policy time false { s with source := .query } script.statements).2 := by
  have hquery : ∀ t : Store, t.source = .query → { t with source := .query } = t := fun t ht => by rw [← ht]
  exact hquery _ (frame_runStatements policy time { s with source := .query } script.statements).source

theorem untimed_withSource {s t : Store} (h : s.untimed = t.untimed) (source : Source) :
    { s with source }.untimed = { t with source }.untimed := congrArg (fun s : Store => { s with source }) h

theorem stops_iff {outcomes : List StatementOutcome} {policy : ErrorPolicy} :
    stops policy outcomes ↔ policy = .abortRemaining ∧ ¬Unfailed outcomes := by
  rw [stops, unfailed_iff]
  cases outcomes.any (isFailure ·.status) <;> simp

theorem stops_eq_false_iff {outcomes : List StatementOutcome} {policy : ErrorPolicy} :
    stops policy outcomes = false ↔ policy ≠ .abortRemaining ∨ Unfailed outcomes := by
  rw [Bool.eq_false_iff, ne_eq, stops_iff, not_and_or, not_not]

/-- **Two scripts in one are carried out like the two, one after the other**, unless the first one stops. -/
theorem execute_append (s : Store) (time time₁ time₂ count offset : Nat) (p q : PreparedScript)
    (policy : ErrorPolicy) :
    let both := s.execute time ⟨p.statements ++ q.statements.map (PreparedStatement.shift count offset)⟩ policy
    let first := s.execute time₁ p policy
    let second := first.2.execute time₂ q policy
    (policy ≠ .abortRemaining ∨ Unfailed first.1.outcomes →
      both.1.outcomes = first.1.outcomes ++ second.1.outcomes.map (StatementOutcome.shift count offset) ∧
        both.2.untimed = second.2.untimed) ∧
    (policy = .abortRemaining ∧ ¬Unfailed first.1.outcomes →
      both.1.outcomes = first.1.outcomes ++ q.statements.map (fun x => ⟨x.index + count, x.text, .notRun⟩) ∧
        both.2.untimed = first.2.untimed) := by
  intro both first second
  let query : Store := { s with source := .query }
  obtain ⟨houtcomes, hstore⟩ := runStatements_alike (rfl : query.untimed = query.untimed) policy time time₁ false
    p.statements
  have hfirst : first.1.outcomes = (runStatements policy time false query p.statements).1 := houtcomes.symm
  have hrun := runStatements_append policy time query p.statements
    (q.statements.map (PreparedStatement.shift count offset))
  have hboth : both.1.outcomes = (runStatements policy time false query _).1 ∧
      both.2 = { (runStatements policy time false query _).2 with source := s.source } := ⟨rfl, rfl⟩
  rw [hrun] at hboth
  rw [hboth.1, hboth.2, hfirst]
  constructor
  · intro h
    have hstops := stops_eq_false_iff.2 h
    have hsecond := runStatements_alike hstore policy time time₂ false q.statements
    rw [← asQuery_execute s time₁ p policy] at hsecond
    simp only [hstops, runStatements_shift]
    exact ⟨congrArg (fun outcomes => _ ++ List.map _ outcomes) hsecond.1, untimed_withSource hsecond.2 s.source⟩
  · intro h
    have hstops := stops_iff.2 h
    simp only [hstops, runStatements_true, List.map_map]
    exact ⟨rfl, untimed_withSource hstore s.source⟩

end Store

namespace Engine

/-- the engine without the times of its history entries -/
def untimed (e : Engine) : Engine := { e with store := e.store.untimed }

theorem store_of_untimed {e e' : Engine} (h : e.untimed = e'.untimed) :
    e.store.data = e'.store.data ∧ e.store.bus = e'.store.bus := by
  have hdata : e.untimed.store.data = e'.untimed.store.data := by rw [h]
  have hbus : e.untimed.store.bus = e'.untimed.store.bus := by rw [h]
  exact ⟨hdata, hbus⟩

theorem untimed_withStore {s t : Store} (h : s.untimed = t.untimed) (e : Engine) :
    untimed { e with store := s } = untimed { e with store := t } := congrArg (fun store => { e with store }) h

theorem prepare_withStore (e : Engine) (store : Store) (script : String) :
    prepare { e with store } script = e.prepare script := rfl

/-- without a savepoint before it, a script touches the store only -/
theorem state_runScriptWith {e : Engine} (h : e.savepoints.policy.enabled = false) (time : Nat) (script : String)
    (policy : ErrorPolicy) : (e.runScriptWith time script policy).2 =
      { e with store := (e.store.execute time (e.prepare script) policy).2 } := by
  simp only [runScriptWith, autoSavepoint, h, Bool.not_false, if_true]

end Engine

/-! ## Main result -/

open Engine Store

/-- **Scripts compose.** Let `a` be what stands up to its last semicolon and the rest of it. With a semicolon and `b`
after `a`, the statement of that rest ends in the semicolon, unless the rest is blank, and the statements of `b`
follow, shifted by the statements and the characters in front of them. Without savepoints before scripts, running the
whole does what running `a` and then `b` does, up to the times of history entries, and gives their outcomes one after
the other; when the policy is to stop and a statement of `a` fails, it does what `a` does, and no statement of `b`
runs. -/
theorem scripts_compose (a b : String) :
    (∃ before tail, Script.Ends a.toList before tail ∧
      let done := Script.lex (String.ofList before)
      let last := Script.finalStatement before tail done.length
      Script.lex a = done ++ last ∧ Script.lex (a ++ ";" ++ b) = done ++ last.map (Script.Statement.close a.length) ++
        (Script.lex b).map (Script.Statement.shift (Script.lex a).length (a.length + 1))) ∧
    ∀ e : Engine, e.savepoints.policy.enabled = false → ∀ (time time₁ time₂ : Nat) (policy : ErrorPolicy),
      let both := e.runScriptWith time (a ++ ";" ++ b) policy
      let first := e.runScriptWith time₁ a policy
      let second := first.2.runScriptWith time₂ b policy
      (policy ≠ .abortRemaining ∨ Unfailed first.1.outcomes →
        both.1.outcomes = first.1.outcomes ++
            second.1.outcomes.map (StatementOutcome.shift (Script.lex a).length (a.length + 1)) ∧
          both.2.untimed = second.2.untimed) ∧
      (policy = .abortRemaining ∧ ¬Unfailed first.1.outcomes →
        both.1.outcomes = first.1.outcomes ++
            (e.prepare b).statements.map (fun x => ⟨x.index + (Script.lex a).length, x.text, .notRun⟩) ∧
          both.2.untimed = first.2.untimed) := by
  constructor
  · obtain ⟨before, tail, h⟩ := Script.exists_ends a.toList
    exact ⟨before, tail, h, Script.lex_append h b⟩
  · intro e he time time₁ time₂ policy both first second
    have hprepare : e.prepare (a ++ ";" ++ b) = ⟨(e.prepare a).statements ++
        (e.prepare b).statements.map (PreparedStatement.shift (Script.lex a).length (a.length + 1))⟩ :=
      congrArg PreparedScript.mk (e.dialect.statements_prepare_append a b)
    have hboth : both.2 = { e with store := _ } := state_runScriptWith he time _ policy
    have hfirst : first.2 = { e with store := _ } := state_runScriptWith he time₁ a policy
    have hpolicy : first.2.savepoints.policy.enabled = false := by rw [hfirst, he]
    have hsecond := state_runScriptWith hpolicy time₂ b policy
    have hlater := outcomes_runScriptWith first.2 time₂ b policy
    rw [hfirst] at hsecond hlater
    simp only [prepare_withStore] at hsecond hlater
    obtain ⟨hgoes, hstops⟩ := execute_append e.store time time₁ time₂ (Script.lex a).length (a.length + 1)
      (e.prepare a) (e.prepare b) policy
    simp only [both, first, second] at hboth hfirst ⊢
    rw [hboth, hfirst, hsecond, hlater, outcomes_runScriptWith, outcomes_runScriptWith, hprepare]
    exact ⟨fun h => (hgoes h).imp_right fun hstore => untimed_withStore hstore e,
      fun h => (hstops h).imp_right fun hstore => untimed_withStore hstore e⟩

/-- the sample engine without savepoints before scripts -/
def plainSample : Engine := { sample with savepoints := { policy := {} } }

/-- a text that leaves a counter at 2 -/
def firstHalf : String := "inc env:b 2;  clear env:a"

/-- a text with a fault, which goes on with the counter -/
def secondHalf : String := "set env:$ 1; inc env:b 1"

/-- the fault in the second text is told further behind, and the counter goes on from where the first text left it -/
theorem sample_scripts_compose :
    let first := plainSample.runScriptWith 2 firstHalf .skipAndContinue
    let second := first.2.runScriptWith 3 secondHalf .skipAndContinue
    let both := plainSample.runScriptWith 1 (firstHalf ++ ";" ++ secondHalf) .skipAndContinue
    second.1.outcomes.map (·.status) = [.failed (.lex ⟨8, '$'⟩), .applied ⟨"env", "b"⟩ (some "3")] ∧
      both.1.outcomes.map (·.status) = [.applied ⟨"env", "b"⟩ (some "2"), .applied ⟨"env", "a"⟩ none,
        .failed (.lex ⟨34, '$'⟩), .applied ⟨"env", "b"⟩ (some "3")] ∧
        both.2.store.data = second.2.store.data ∧ both.2.store.bus = second.2.store.bus := by
  intro first second both
  obtain ⟨-, hruns⟩ := scripts_compose firstHalf secondHalf
  obtain ⟨hgoes, -⟩ := hruns plainSample rfl 1 2 3 .skipAndContinue
  obtain ⟨-, hstore⟩ := hgoes (.inl (by decide))
  exact ⟨by decide +kernel, by decide +kernel, store_of_untimed hstore⟩

end ScopedStore
