/-
The language of key texts.

`Key.ofSides` takes the two sides of the first colon of a text as the parts of a key, and `Key.Shaped` says that it
is the only colon and that neither side is empty. These texts are the ones that a well-formed key has
(`Key.shaped_iff`), so to cut a text is to take its sides when it is shaped, and to refuse it when it is not
(`Key.split_of_shaped`, `Key.split_of_not_shaped`). The rules are asked after that, the scope before the name.

Main result, `keys_are_read_as_written`: a text is read as a key exactly when it is shaped and the rules accept its
sides; the text of the key is that text again; and the error is that of the first check which fails.
-/
import ScopedStore.Proofs.Invariant
import ScopedStore.Proofs.KeyRules

namespace ScopedStore

namespace Key

/-- the key whose parts are the two sides of the first colon of a text -/
def ofSides (raw : String) : Key :=
  ⟨String.ofList (raw.toList.takeWhile (· ≠ ':')), String.ofList ((raw.toList.dropWhile (· ≠ ':')).drop 1)⟩

/-- there is exactly one colon in the text, and something on either side of it -/
structure Shaped (raw : String) : Prop where
  colon : raw.toList.count ':' = 1
  scope : (ofSides raw).scope ≠ ""
  name : (ofSides raw).name ≠ ""

instance (raw : String) : Decidable (Shaped raw) :=
  decidable_of_iff (raw.toList.count ':' = 1 ∧ (ofSides raw).scope ≠ "" ∧ (ofSides raw).name ≠ "")
    ⟨fun ⟨colon, scope, name⟩ => ⟨colon, scope, name⟩, fun h => ⟨h.colon, h.scope, h.name⟩⟩

variable {raw : String} {k : Key}

/-- a text is cut at its first colon -/
theorem ofSides_eq {before after : List Char} (hraw : raw.toList = before ++ ':' :: after) (hfirst : ':' ∉ before) :
    ofSides raw = ⟨String.ofList before, String.ofList after⟩ := by
  have hbefore : ∀ c ∈ before, decide (c ≠ ':') = true := fun c hc => decide_eq_true fun he => hfirst (he ▸ hc)
  rw [ofSides, hraw, List.takeWhile_append_of_pos hbefore, List.takeWhile_cons_of_neg (by simp), List.append_nil,
    List.dropWhile_append_of_pos hbefore, List.dropWhile_cons_of_neg (by simp), List.drop_succ_cons, List.drop_zero]

/-- the sides of the text of a key are its parts -/
theorem ofSides_text (h : ':' ∉ k.scope.toList) : ofSides k.text = k := by
  rw [ofSides_eq (toList_text k) h, String.ofList_toList, String.ofList_toList]

/-- **Shaped texts are the texts of well-formed keys.** -/
theorem shaped_iff : Shaped raw ↔ (ofSides raw).WellFormed ∧ (ofSides raw).text = raw := by
  constructor
  · intro h
    have hmem : ':' ∈ raw.toList := List.count_pos_iff.1 (h.colon ▸ Nat.one_pos)
    obtain ⟨before, after, hraw, hbefore⟩ := List.eq_append_cons_of_mem hmem
    have hsides := ofSides_eq hraw hbefore
    have hcount := h.colon
    rw [hraw, List.count_append, List.count_cons_self, List.count_eq_zero.2 hbefore] at hcount
    have hafter : ':' ∉ after := List.count_eq_zero.1 (by omega)
    have hscope := h.scope
    have hname := h.name
    rw [hsides] at hscope hname ⊢
    refine ⟨⟨⟨mt String.toList_eq_nil_iff.1 hscope, ?_⟩, ⟨mt String.toList_eq_nil_iff.1 hname, ?_⟩⟩, ?_⟩
    · rwa [String.toList_ofList]
    · rwa [String.toList_ofList]
    · rw [← String.toList_inj, toList_text, String.toList_ofList, String.toList_ofList, hraw]
  · rintro ⟨hwell, htext⟩
    have hcount : raw.toList.count ':' = 1 := by
      rw [← htext, toList_text, List.count_append, List.count_cons_self, List.count_eq_zero.2 hwell.scope.2,
        List.count_eq_zero.2 hwell.name.2]
    exact ⟨hcount, mt String.toList_eq_nil_iff.2 hwell.scope.1, mt String.toList_eq_nil_iff.2 hwell.name.1⟩

theorem split_of_shaped (h : Shaped raw) : split raw = .ok (ofSides raw) := by
  obtain ⟨hwell, htext⟩ := shaped_iff.1 h
  exact split_eq_ok.2 ⟨htext.symm, hwell⟩

/-- a text that is not cut is named in the error -/
theorem split_eq_error {e : KeyError} (h : split raw = .error e) : e = .invalidFormat raw := by
  unfold split at h
  split at h
  · split_ifs at h
    exact (Except.error.inj h).symm
  · exact (Except.error.inj h).symm

theorem split_of_not_shaped (h : ¬Shaped raw) : split raw = .error (.invalidFormat raw) := by
  cases hsplit : split raw with
  | ok k =>
    obtain ⟨rfl, hwell⟩ := split_eq_ok.1 hsplit
    have hsides := ofSides_text hwell.scope.2
    exact absurd (shaped_iff.2 (by rw [hsides]; exact ⟨hwell, rfl⟩)) h
  | error e => rw [split_eq_error hsplit]

end Key

namespace KeyRules

variable {rules : KeyRules} {raw : String} {k : Key} {e : KeyError}

open Key

/-- the shape of a text is looked at first, then its scope, then its name -/
theorem parse_eq (rules : KeyRules) (raw : String) : rules.parse raw =
    if Shaped raw then
      if rules.allows (ofSides raw).scope then
        if rules.pattern.accepts (ofSides raw).name then .ok (ofSides raw)
        else .error (.invalidName (ofSides raw).name)
      else .error (.unknownScope (ofSides raw).scope)
    else .error (.invalidFormat raw) := by
  by_cases hshaped : Shaped raw
  · rw [parse, split_of_shaped hshaped, if_pos hshaped]
    by_cases hscope : rules.allows (ofSides raw).scope
    · by_cases hname : rules.pattern.accepts (ofSides raw).name <;> simp [hscope, hname]
    · simp [hscope]
  · rw [parse, split_of_not_shaped hshaped, if_neg hshaped]

/-- **Which texts are keys.** -/
theorem parse_eq_ok_iff_shaped : rules.parse raw = .ok k ↔
    Shaped raw ∧ k = ofSides raw ∧ rules.allows k.scope ∧ rules.pattern.accepts k.name := by
  rw [parse_eq]
  constructor
  · intro h
    split_ifs at h with hshaped hscope hname
    obtain rfl := Except.ok.inj h
    exact ⟨hshaped, rfl, hscope, hname⟩
  · rintro ⟨hshaped, rfl, hscope, hname⟩
    rw [if_pos hshaped, if_pos hscope, if_pos hname]

/-- **Why a text is no key.** The first check that fails is reported. -/
theorem parse_eq_error : rules.parse raw = .error e ↔
    ¬Shaped raw ∧ e = .invalidFormat raw ∨
      Shaped raw ∧ (¬rules.allows (ofSides raw).scope ∧ e = .unknownScope (ofSides raw).scope ∨
        rules.allows (ofSides raw).scope ∧ ¬rules.pattern.accepts (ofSides raw).name ∧
          e = .invalidName (ofSides raw).name) := by
  rw [parse_eq]
  split_ifs with hshaped hscope hname
  · simp [hshaped, hscope, hname]
  · simp [hshaped, hscope, hname, @eq_comm _ e]
  · simp [hshaped, hscope, @eq_comm _ e]
  · simp [hshaped, @eq_comm _ e]

/-- parts make a key when the rules accept it -/
theorem key_eq_ok {scope name : String} : rules.key scope name = .ok k ↔ k = ⟨scope, name⟩ ∧ rules.Accepts k := by
  have hkey : rules.key scope name = rules.parse (Key.text ⟨scope, name⟩) := rfl
  rw [hkey, parse_eq_ok]
  constructor
  · rintro ⟨htext, hk⟩
    exact ⟨(eq_of_text_eq htext hk.wellFormed).symm, hk⟩
  · rintro ⟨rfl, hk⟩
    exact ⟨rfl, hk⟩

end KeyRules

/-! ## Main result -/

open Engine Key

/-- **Keys are read as they are written.** Take any rules.
- A text is read as a key exactly when it has a single colon with something on either side, the left side is an allowed
  scope and the right side fits the name pattern; the key has these sides as its parts.
- The text of the key is the text that was read, so that two texts are not read as one key.
- Any other text is refused, for its shape, or else for its scope, or else for its name.
- Parts are put together and read as a text, so they make a key, with these parts, exactly when neither is empty or
  holds a colon and the rules accept them. -/
theorem keys_are_read_as_written (rules : KeyRules) :
    (∀ raw k, rules.parse raw = .ok k ↔
      Shaped raw ∧ k = ofSides raw ∧ rules.allows k.scope ∧ rules.pattern.accepts k.name) ∧
    (∀ raw k, rules.parse raw = .ok k → k.text = raw) ∧
    (∀ raw raw' k, rules.parse raw = .ok k → rules.parse raw' = .ok k → raw = raw') ∧
    (∀ raw e, rules.parse raw = .error e ↔
      ¬Shaped raw ∧ e = .invalidFormat raw ∨
        Shaped raw ∧ (¬rules.allows (ofSides raw).scope ∧ e = .unknownScope (ofSides raw).scope ∨
          rules.allows (ofSides raw).scope ∧ ¬rules.pattern.accepts (ofSides raw).name ∧
            e = .invalidName (ofSides raw).name)) ∧
    ∀ scope name, rules.key scope name = rules.parse (scope ++ ":" ++ name) ∧
      ∀ k, rules.key scope name = .ok k ↔ k = ⟨scope, name⟩ ∧ (':' ∉ scope.toList ∧ ':' ∉ name.toList) ∧
        (scope ≠ "" ∧ name ≠ "") ∧ rules.allows scope ∧ rules.pattern.accepts name := by
  have htext {raw : String} {k : Key} (h : rules.parse raw = .ok k) : k.text = raw := (KeyRules.parse_eq_ok.1 h).1.symm
  refine ⟨fun raw k => KeyRules.parse_eq_ok_iff_shaped, fun raw k => htext,
    fun raw raw' k h h' => (htext h).symm.trans (htext h'), fun raw e => KeyRules.parse_eq_error,
    fun scope name => ⟨rfl, fun k => ?_⟩⟩
  rw [KeyRules.key_eq_ok]
  constructor
  · rintro ⟨rfl, hk⟩
    exact ⟨rfl, ⟨hk.wellFormed.scope.2, hk.wellFormed.name.2⟩,
      ⟨mt String.toList_eq_nil_iff.2 hk.wellFormed.scope.1, mt String.toList_eq_nil_iff.2 hk.wellFormed.name.1⟩,
      hk.scope, hk.name⟩
  · rintro ⟨rfl, ⟨hscope, hname⟩, ⟨hscope', hname'⟩, hallowed, haccepted⟩
    exact ⟨rfl, ⟨⟨mt String.toList_eq_nil_iff.1 hscope', hscope⟩, ⟨mt String.toList_eq_nil_iff.1 hname', hname⟩⟩,
      hallowed, haccepted⟩

/-- one key, texts with each kind of fault, one with two of them, and parts that hold a colon -/
theorem sample_keys_are_read_as_written :
    let k : Key := ⟨"env", "a"⟩
    sampleKeys.parse "env:a" = .ok k ∧ k.text = "env:a" ∧ (∀ raw, sampleKeys.parse raw = .ok k → raw = "env:a") ∧
      sampleKeys.parse "env:a:b" = .error (.invalidFormat "env:a:b") ∧
      sampleKeys.parse "root:1" = .error (.unknownScope "root") ∧
      sampleKeys.parse "env:1" = .error (.invalidName "1") ∧
      sampleKeys.key "env" "a" = .ok k ∧ ¬∃ k, sampleKeys.key "env:a" "b" = .ok k := by
  intro k
  obtain ⟨hread, htext, hdistinct, hrefused, hparts⟩ := keys_are_read_as_written sampleKeys
  have hk : sampleKeys.parse "env:a" = .ok k := (hread "env:a" k).2 (by decide +kernel)
  refine ⟨hk, htext "env:a" k hk, fun raw h => hdistinct raw "env:a" k h hk, (hrefused _ _).2 (by decide +kernel),
    (hrefused _ _).2 (by decide +kernel), (hrefused _ _).2 (by decide +kernel),
    ((hparts "env" "a").2 k).2 (by decide +kernel), ?_⟩
  rintro ⟨k', h⟩
  obtain ⟨-, ⟨hcolon, -⟩, -⟩ := ((hparts "env:a" "b").2 k').1 h
  exact hcolon (by decide)

end ScopedStore
