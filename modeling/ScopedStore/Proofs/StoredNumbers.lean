/-
What scripts store for a number literal.

`Number.storedText` is the canonical text of the number that a literal writes, or the literal as it stands when no
number type holds it. That text is a literal again, and is stored as it is; the exception are decimals that are rounded
to infinity (`Text.Overflows`), for which no literal is stored.
- `Number.read_literal`: whole literals are integers or out of range, and literals with a point are finite doubles or
  overflow.
- `Engine.data_runScriptWith_set`: a statement that sets a key stores this text and touches no other key.

Main result, `numbers_are_stored_stably`: what a script stores for a literal that does not overflow is a literal, and a
script that sets the key to it changes nothing.
-/
import ScopedStore.Proofs.DoubleRange
import ScopedStore.Proofs.Reporting
import ScopedStore.Proofs.ScriptedKeys
import ScopedStore.Proofs.TypedValues

namespace ScopedStore

/-! ## Literals -/

namespace Text

/-- a number literal with a point whose value is rounded to infinity -/
inductive Overflows : List Char → Prop where
  | mk {negative : Bool} {ds ps : List Char} (whole : IsDigits ds) (places : IsDigits ps)
      (large : Double.overflowBound * 10 ^ ps.length ≤ Nat.ofDigitChars 10 (ds ++ ps) 0) :
      Overflows (if negative then '-' :: (ds ++ '.' :: ps) else ds ++ '.' :: ps)

theorem IsUnsigned.isLiteral {cs : List Char} (h : IsUnsigned cs) (negative : Bool) :
    IsLiteral (if negative then '-' :: cs else cs) := by
  cases negative with
  | true => exact .negative h
  | false => exact .plain h

end Text

open Text

namespace Number

variable {n : String} {negative : Bool} {ds ps : List Char}

/-- a literal without a point is an integer, if it is in range -/
theorem read_whole (hd : IsDigits ds) (hn : n.toList = if negative then '-' :: ds else ds) :
    read n = (readInt64 n).map .int := by
  have hmark : hasFractionalMark n = false := hasFractionalMark_of_digits fun c hc => by
    rw [hn] at hc
    cases negative with
    | true => exact (List.mem_cons.1 hc).imp_right fun hc => .inr (hd.digit c hc)
    | false => exact .inr (.inr (hd.digit c hc))
  rw [read, hmark]
  rfl

/-- a literal with a point is the double that it is rounded to -/
theorem read_decimal (hd : IsDigits ds) (hp : IsDigits ps)
    (hn : n.toList = if negative then '-' :: (ds ++ '.' :: ps) else ds ++ '.' :: ps) :
    read n = some (.double (.ofDecimal negative (Nat.ofDigitChars 10 (ds ++ ps) 0) (-(ps.length : Int)))) := by
  have hmark : hasFractionalMark n = true :=
    hasFractionalMark_of_point (by rw [hn]; cases negative <;> simp)
  have hsplit : splitSign n.toList = (negative, ds ++ '.' :: ps) := by
    rw [hn]
    cases negative with
    | true => rfl
    | false => exact splitSign_of_isUnsigned (.point hd hp)
  rw [read, hmark, if_pos rfl, Double.read, hsplit]
  simp only [Double.readUnsigned_of_point hd hp, Option.some_or, Option.map_some]

/-- a literal that overflows is read as infinity -/
theorem read_of_overflows (h : Overflows n.toList) : ∃ negative, read n = some (.double (.infinite negative)) := by
  generalize hn : n.toList = cs at h
  cases h with
  | @mk negative ds ps whole places large =>
    exact ⟨negative, by rw [read_decimal whole places hn, Double.ofDecimal_eq_infinite.2 ⟨rfl, large⟩]⟩

/-- **What a literal is read as.** -/
theorem read_literal (hn : IsLiteral n.toList) :
    read n = none ∨ (∃ i, read n = some (.int i)) ∨ (∃ negative m, read n = some (.double (.finite negative m))) ∨
      Overflows n.toList := by
  obtain ⟨negative, rest, -, hu, hcs⟩ := splitSign_of_isLiteral hn
  cases hu with
  | whole hd =>
    rw [read_whole hd hcs]
    cases readInt64 n with
    | none => exact .inl rfl
    | some i => exact .inr (.inl ⟨i, rfl⟩)
  | @point ds ps hd hp =>
    rw [read_decimal hd hp hcs]
    cases hdouble : Double.ofDecimal negative (Nat.ofDigitChars 10 (ds ++ ps) 0) (-(ps.length : Int)) with
    | nan =>
      rw [Double.ofDecimal_eq, Double.ofUnits] at hdouble
      split_ifs at hdouble
    | finite negative m => exact .inr (.inr (.inl ⟨negative, m, rfl⟩))
    | infinite sign =>
      obtain ⟨-, hlarge⟩ := Double.ofDecimal_eq_infinite.1 hdouble
      exact .inr (.inr (.inr (hcs ▸ .mk hd hp hlarge)))

/-! ## Stored texts -/

/-- what is stored for a literal -/
def storedText (n : String) : String := (read n).elim n render

theorem storedText_of_read {x : Number} (h : read n = some x) : storedText n = x.render := by rw [storedText, h]; rfl

/-- **What is stored is stored as it is.** -/
theorem storedText_storedText (n : String) : storedText (storedText n) = storedText n := by
  cases h : read n with
  | none => simp only [storedText, h, Option.elim_none]
  | some x => rw [storedText_of_read h, storedText_of_read (read_render x)]

theorem isLiteral_writeInt64 (i : Int64) : IsLiteral (writeInt64 i).toList := by
  rw [writeInt64, String.toList_ofList, intDigits]
  split_ifs
  · exact .negative (.whole (isDigits_natDigits _))
  · exact .plain (.whole (isDigits_natDigits _))

theorem isLiteral_write (negative : Bool) (m : Fin magnitudeCount) :
    IsLiteral (Double.finite negative m).write.toList := by
  obtain ⟨whole, places, htext, hwhole, hplaces, -⟩ := Double.writeMagnitude_eq m
  rw [Double.write, String.toList_ofList, htext]
  exact (IsUnsigned.point hwhole hplaces).isLiteral negative

/-- the text of infinity is no literal -/
theorem not_isLiteral_infinite (negative : Bool) : ¬IsLiteral (Double.infinite negative).write.toList := by
  have hfirst : ¬IsUnsigned "inf".toList := fun h => by
    obtain ⟨d, rest, heq, hd⟩ := h.head
    obtain ⟨rfl, -⟩ := List.cons.inj heq
    exact absurd hd (by decide)
  intro h
  cases negative with
  | true =>
    cases h with
    | plain h =>
      obtain ⟨d, rest, heq, hd⟩ := h.head
      obtain ⟨rfl, -⟩ := List.cons.inj heq
      exact absurd hd (by decide)
    | negative h => exact hfirst h
  | false =>
    cases h with
    | plain h => exact hfirst h

/-- **What is stored for a literal is a literal**, unless it overflows. -/
theorem isLiteral_storedText (hn : IsLiteral n.toList) : IsLiteral (storedText n).toList ↔ ¬Overflows n.toList := by
  constructor
  · intro h hb
    obtain ⟨negative, hinfinite⟩ := read_of_overflows hb
    rw [storedText_of_read hinfinite] at h
    exact not_isLiteral_infinite negative h
  · intro hb
    rcases read_literal hn with h | ⟨i, h⟩ | ⟨negative, m, h⟩ | h
    · rwa [storedText, h]
    · rw [storedText_of_read h]
      exact isLiteral_writeInt64 i
    · rw [storedText_of_read h]
      exact isLiteral_write negative m
    · exact absurd h hb

end Number

/-! ## Scripts -/

theorem Mapping.insert_insert (m : Mapping) (k : Key) (raw : String) : (m.insert k raw).insert k raw = m.insert k raw := by
  refine Std.ExtTreeMap.ext_getElem? fun k' => ?_
  simp only [Std.ExtTreeMap.getElem?_insert]
  split_ifs <;> rfl

namespace Store

/-- a script that is one `set` on an accepted key puts the text of its operand there -/
theorem data_execute_set {s : Store} {k : Key} {x : PreparedStatement} {operand : Operand} (ha : s.keys.Accepts k)
    (hx : x.command = .ok ⟨.set, k, some operand⟩) (time : Nat) (policy : ErrorPolicy) :
    (s.execute time ⟨[x]⟩ policy).2.data = s.data.insert k operand.text := by
  let asked : Store := { s with source := .query }
  have hk : asked.resolve (.key k) = .ok k := Result.mapError_eq_ok.2 (KeyRules.resolve_key ha)
  have happly : apply time ⟨.set, k, some operand⟩ asked =
      (.ok (some operand.text), asked.write time .set k operand.text) :=
    Attempt.bind_eq_ok.2 ⟨(), _, set_of_accepted hk time operand.text, rfl⟩
  have hstatement : asked.applyStatement time x =
      (.applied k (some operand.text), asked.write time .set k operand.text) := by
    simp only [applyStatement, hx, happly]
  have hrun : (runStatements policy time false asked [x]).2 = asked.write time .set k operand.text := by
    rw [runStatements_cons, hstatement]
    rfl
  rw [execute_eq]
  exact congrArg Store.data hrun

end Store

namespace Engine

open Store Script

variable {e : Engine} {k : Key} {n : String}

/-- what a statement stores that sets a key to a literal -/
theorem text_operand (n : String) : ((Number.read n).elim (.literal n) .number : Operand).text = Number.storedText n := by
  rw [Number.storedText]
  cases Number.read n <;> rfl

theorem Reachable.runScriptWith (h : Reachable e) (time : Nat) (script : String) (policy : ErrorPolicy) :
    Reachable (e.runScriptWith time script policy).2 := h.perform time (.runScript script policy)

/-- **A script that sets a key to a literal stores its text.** -/
theorem data_runScriptWith_set (hi : Inv e) (ha : e.store.keys.Accepts k) (ht : IsToken k.text.toList (.key k.text))
    (he : .set ∈ e.store.config.enabledCommands) (hn : IsLiteral n.toList) (time : Nat) (policy : ErrorPolicy) :
    (e.runScriptWith time (CommandKind.set.statement k n) policy).2.store.data =
      e.store.data.insert k (Number.storedText n) := by
  have haccepts : e.dialect.keys.Accepts k := by rw [hi.dialect]; exact ha
  have henabled : e.dialect.enabled .set = true := by
    rw [hi.dialect]
    exact List.contains_iff_mem.2 he
  obtain ⟨tokens, hlex, -, hanalyze⟩ := Dialect.reads_statement (n := n) ht haccepts henabled ⟨hn, by simp⟩
  have hprepare : e.prepare (CommandKind.set.statement k n) = ⟨[⟨0, CommandKind.set.statement k n,
      .ok ⟨.set, k, some ((Number.read n).elim (.literal n) .number)⟩⟩]⟩ := by
    refine congrArg PreparedScript.mk ?_
    rw [hlex]
    simp only [List.map_singleton, Statement.command, hanalyze]
    rfl
  rw [store_runScriptWith, hprepare, data_execute_set ha rfl, text_operand]

end Engine

open Engine

/-- **Numbers are stored stably.** For every number literal that does not overflow there is a literal `r` such that in
every engine, a script that sets a key to the first literal stores `r`, and a script that then sets the key to `r`
leaves the mapping as it is. -/
theorem numbers_are_stored_stably {n : String} (hn : IsLiteral n.toList) (hb : ¬Overflows n.toList) :
    ∃ r : String, IsLiteral r.toList ∧ ∀ (e : Engine) (k : Key), Reachable e → e.store.keys.Accepts k →
      Script.IsToken k.text.toList (.key k.text) → .set ∈ e.store.config.enabledCommands → ∀ time policy,
        let after := (e.runScriptWith time (CommandKind.set.statement k n) policy).2
        after.store.data[k]? = some r ∧ ∀ time policy,
          (after.runScriptWith time (CommandKind.set.statement k r) policy).2.store.data = after.store.data := by
  have hr : IsLiteral (Number.storedText n).toList := (Number.isLiteral_storedText hn).2 hb
  refine ⟨Number.storedText n, hr, fun e k h ha ht he time policy => ?_⟩
  have hdata := data_runScriptWith_set h.inv ha ht he hn time policy
  have hreachable := h.runScriptWith time (CommandKind.set.statement k n) policy
  have hframe := (h.inv.tracks_runScript time (CommandKind.set.statement k n) policy).frame
  generalize (e.runScriptWith time (CommandKind.set.statement k n) policy).2 = after at hdata hreachable hframe
  have haccepts : after.store.keys.Accepts k := hframe.keys ▸ ha
  have henabled : .set ∈ after.store.config.enabledCommands := hframe.config ▸ he
  refine ⟨by rw [hdata]; exact Std.ExtTreeMap.getElem?_insert_self, fun time policy => ?_⟩
  rw [data_runScriptWith_set hreachable.inv haccepts ht henabled hr, hdata, Number.storedText_storedText]
  exact Mapping.insert_insert ..

/-- the sample engine has a key that can be written in scripts -/
theorem sample_key : sample.store.keys.Accepts ⟨"env", "a"⟩ ∧ Script.IsToken "env:a".toList (.key "env:a") := by
  have hparse : sample.store.keys.parse "env:a" = .ok ⟨"env", "a"⟩ := by decide +kernel
  have hscope : Script.IsName "env".toList := .mk (by decide +kernel) (List.all_eq_true.1 (by decide +kernel))
  have hname : ∀ c ∈ "a".toList, Script.isWordChar c := List.all_eq_true.1 (by decide +kernel)
  exact ⟨(KeyRules.parse_eq_ok.1 hparse).2, .key hscope hname⟩

theorem sample_numbers_are_stored_stably :
    let after := (sample.runScriptWith 1 "set env:a to -007.50" .abortRemaining).2
    after.store.data[(⟨"env", "a"⟩ : Key)]? = some "-7.5" ∧
      (after.runScriptWith 2 "set env:a to -7.5" .abortRemaining).2.store.data = after.store.data := by
  have hwhole : IsDigits "007".toList := ⟨by decide, List.all_eq_true.1 (by decide)⟩
  have hplaces : IsDigits "50".toList := ⟨by decide, List.all_eq_true.1 (by decide)⟩
  have hn : IsLiteral "-007.50".toList := .negative (.point hwhole hplaces)
  have hread : (Number.read "-007.50").map Number.render = some "-7.5" := by decide +kernel
  have hb : ¬Overflows "-007.50".toList := fun h => by
    obtain ⟨negative, hinfinite⟩ := Number.read_of_overflows h
    rw [hinfinite] at hread
    cases negative <;> simp [Number.render, Double.write] at hread
  obtain ⟨r, -, hstable⟩ := numbers_are_stored_stably hn hb
  obtain ⟨hdata, hagain⟩ :=
    hstable sample ⟨"env", "a"⟩ reachable_sample sample_key.1 sample_key.2 (by decide) 1 .abortRemaining
  have hfirst : CommandKind.set.statement ⟨"env", "a"⟩ "-007.50" = "set env:a to -007.50" := by decide +kernel
  have hsecond : CommandKind.set.statement ⟨"env", "a"⟩ "-7.5" = "set env:a to -7.5" := by decide +kernel
  rw [hfirst] at hdata hagain
  have hr : r = "-7.5" := Option.some.inj (hdata.symm.trans (by decide +kernel))
  subst hr
  rw [← hsecond]
  exact ⟨hdata, hagain 2 .abortRemaining⟩

/-- a decimal that is beyond all doubles: a two, 308 zeros, and a place after the point -/
def hugeDecimal : String := String.ofList (('2' :: List.replicate 308 '0') ++ '.' :: ['0'])

theorem huge_decimal_is_stored_as_infinity : IsLiteral hugeDecimal.toList ∧
    (sample.runScriptWith 1 (CommandKind.set.statement ⟨"env", "a"⟩ hugeDecimal) .abortRemaining).2.store.data[
      (⟨"env", "a"⟩ : Key)]? = some "inf" ∧ ¬IsLiteral "inf".toList := by
  have hwhole : IsDigits ('2' :: List.replicate 308 '0') :=
    ⟨List.cons_ne_nil _ _, List.forall_mem_cons.2 ⟨by decide, fun c hc => isDigit_of_mem_zeros hc⟩⟩
  have htext : hugeDecimal.toList = ('2' :: List.replicate 308 '0') ++ '.' :: ['0'] := String.toList_ofList
  have hn : IsLiteral hugeDecimal.toList := htext ▸ .plain (.point hwhole isDigits_zero)
  have hlarge : Double.overflowBound * 10 ^ ['0'].length ≤
      Nat.ofDigitChars 10 (('2' :: List.replicate 308 '0') ++ ['0']) 0 := by decide +kernel
  have hstored : Number.storedText hugeDecimal = "inf" := by
    rw [Number.storedText_of_read (@Number.read_decimal hugeDecimal false _ _ hwhole isDigits_zero htext),
      Double.ofDecimal_eq_infinite.2 ⟨rfl, hlarge⟩]
    rfl
  refine ⟨hn, ?_, Number.not_isLiteral_infinite false⟩
  rw [data_runScriptWith_set reachable_sample.inv sample_key.1 sample_key.2 (by decide) hn, hstored]
  exact Std.ExtTreeMap.getElem?_insert_self

end ScopedStore
