/-
Which texts are keys.

`Key.split_eq_ok`: a text is cut into a key exactly when it is the text of that key and neither part is empty or holds a
colon. `KeyRules.parse_eq_ok`: it is an accepted key when the rules allow the scope and the name besides. A key that was
accepted once is accepted again, as the same key (`resolve_key`). A consistent configuration has key rules
(`Config.exists_keyRules`).
-/
import Mathlib.Tactic
import ScopedStore.Config.Basic
import ScopedStore.Proofs.Consistency
import ScopedStore.Proofs.Result

namespace ScopedStore

/-! ## Pieces -/

namespace Text

variable {separator : Char}

theorem pieces_of_absent {cs : List Char} (h : separator ∉ cs) : pieces separator cs = [cs] := by
  induction cs with
  | nil => rfl
  | cons c cs ih =>
    have hc : c ≠ separator := fun he => h (he ▸ List.mem_cons_self)
    rw [pieces, if_neg hc, ih fun hm => h (List.mem_cons_of_mem c hm)]

theorem pieces_append_separator {cs : List Char} (h : separator ∉ cs) (ds : List Char) :
    pieces separator (cs ++ separator :: ds) = cs :: pieces separator ds := by
  induction cs with
  | nil => rw [List.nil_append, pieces, if_pos rfl]
  | cons c cs ih =>
    have hc : c ≠ separator := fun he => h (he ▸ List.mem_cons_self)
    rw [List.cons_append, pieces, if_neg hc, ih fun hm => h (List.mem_cons_of_mem c hm)]

end Text

/-! ## Keys -/

namespace Key

/-- neither part is empty or holds a colon -/
structure WellFormed (k : Key) : Prop where
  scope : k.scope.toList ≠ [] ∧ ':' ∉ k.scope.toList
  name : k.name.toList ≠ [] ∧ ':' ∉ k.name.toList

theorem toList_text (k : Key) : k.text.toList = k.scope.toList ++ ':' :: k.name.toList := by simp [text]

/-- the text of a well-formed key is the text of no other key -/
theorem eq_of_text_eq {k k' : Key} (h : k.text = k'.text) (hw : k'.WellFormed) : k = k' := by
  have ht : k.scope.toList ++ ':' :: k.name.toList = k'.scope.toList ++ ':' :: k'.name.toList := by
    rw [← toList_text, ← toList_text, h]
  -- the text has a single colon, so there is none in either part
  have hcount : k.scope.toList.count ':' + (k.name.toList.count ':' + 1) = 1 := by
    have hc := congrArg (List.count ':') ht
    simpa [List.count_append, List.count_eq_zero.2 hw.scope.2, List.count_eq_zero.2 hw.name.2] using hc
  have hs : ':' ∉ k.scope.toList := List.count_eq_zero.1 (by omega)
  have hn : ':' ∉ k.name.toList := List.count_eq_zero.1 (by omega)
  have hp := congrArg (Text.pieces ':') ht
  rw [Text.pieces_append_separator hs, Text.pieces_of_absent hn, Text.pieces_append_separator hw.scope.2,
    Text.pieces_of_absent hw.name.2] at hp
  obtain ⟨hscope, hname⟩ : k.scope.toList = k'.scope.toList ∧ k.name.toList = k'.name.toList := by simpa using hp
  obtain ⟨scope, name⟩ := k
  obtain ⟨scope', name'⟩ := k'
  rw [Key.mk.injEq]
  exact ⟨String.toList_inj.1 hscope, String.toList_inj.1 hname⟩

theorem split_text {k : Key} (h : k.WellFormed) : split k.text = .ok k := by
  unfold split
  rw [toList_text, Text.pieces_append_separator h.scope.2, Text.pieces_of_absent h.name.2]
  simp [List.isEmpty_iff, h.scope.1, h.name.1]

theorem split_eq_ok {raw : String} {k : Key} : split raw = .ok k ↔ raw = k.text ∧ k.WellFormed := by
  constructor
  · intro h
    unfold split at h
    split at h
    · rename_i scope name hp
      have hj : Text.join ':' [scope, name] = raw.toList := hp ▸ Text.join_pieces ':' raw.toList
      have hpiece : ∀ piece ∈ [scope, name], ':' ∉ piece := fun piece hm =>
        Text.separator_notMem_of_mem_pieces (hp ▸ hm)
      have hs : ':' ∉ scope := hpiece scope (by simp)
      have hn : ':' ∉ name := hpiece name (by simp)
      split_ifs at h with he
      obtain rfl := Except.ok.inj h
      simp only [Bool.or_eq_true, List.isEmpty_iff, not_or] at he
      refine ⟨String.toList_inj.1 ?_, by simpa using ⟨he.1, hs⟩, by simpa using ⟨he.2, hn⟩⟩
      rw [toList_text, ← hj, Text.join_cons_cons, Text.join_singleton, String.toList_ofList, String.toList_ofList]
    · cases h
  · rintro ⟨rfl, h⟩
    exact split_text h

end Key

/-! ## Rules -/

namespace KeyRules

/-- the key is well-formed, of an allowed scope, and has a name that fits the pattern -/
structure Accepts (rules : KeyRules) (k : Key) : Prop where
  wellFormed : k.WellFormed
  scope : rules.allows k.scope
  name : rules.pattern.accepts k.name

theorem parse_eq_ok {rules : KeyRules} {raw : String} {k : Key} :
    rules.parse raw = .ok k ↔ raw = k.text ∧ rules.Accepts k := by
  unfold parse
  constructor
  · intro h
    split at h
    · cases h
    · rename_i k' hk
      split_ifs at h with hs hn
      obtain rfl := Except.ok.inj h
      obtain ⟨hr, hw⟩ := Key.split_eq_ok.1 hk
      exact ⟨hr, hw, by simpa using hs, by simpa using hn⟩
  · rintro ⟨rfl, h⟩
    simp [Key.split_text h.wellFormed, h.scope, h.name]

/-- whatever an argument is resolved to is accepted -/
theorem accepts_of_resolve {rules : KeyRules} {ref : KeyRef} {k : Key} (h : rules.resolve ref = .ok k) :
    rules.Accepts k := by
  cases ref with
  | text raw => exact (parse_eq_ok.1 h).2
  | key k' => exact (parse_eq_ok.1 h).2

/-- a key is resolved to itself or to nothing -/
theorem eq_of_resolve_key {rules : KeyRules} {k k' : Key} (h : rules.resolve (.key k) = .ok k') : k = k' := by
  obtain ⟨ht, ha⟩ := parse_eq_ok.1 h
  exact Key.eq_of_text_eq ht ha.wellFormed

/-- an accepted key stands for itself -/
theorem resolve_key {rules : KeyRules} {k : Key} (h : rules.Accepts k) : rules.resolve (.key k) = .ok k :=
  parse_eq_ok.2 ⟨rfl, h⟩

end KeyRules

/-! ## Rules of a configuration -/

namespace Config

variable {config : Config} {p : NamePattern} {rules : KeyRules}

theorem compilePattern_eq_ok {source : String} : compilePattern source = .ok p ↔ NamePattern.compile source = some p := by
  unfold compilePattern
  cases NamePattern.compile source <;> simp

theorem keyRules_eq_ok : config.keyRules = .ok rules ↔
    NamePattern.compile config.namePattern = some rules.pattern ∧ rules.scopes = config.allowedScopes := by
  rw [keyRules, Result.map_eq_ok]
  constructor
  · rintro ⟨p, hp, rfl⟩
    exact ⟨compilePattern_eq_ok.1 hp, rfl⟩
  · obtain ⟨scopes, p⟩ := rules
    rintro ⟨hp, rfl⟩
    exact ⟨p, compilePattern_eq_ok.2 hp, rfl⟩

/-- a consistent configuration has key rules -/
theorem exists_keyRules (h : config.validate = .ok ()) : ∃ rules, config.keyRules = .ok rules := by
  obtain ⟨p, hp⟩ := (consistentUpToEnums_of_validate h).pattern
  exact ⟨⟨config.allowedScopes, p⟩, keyRules_eq_ok.2 ⟨compilePattern_eq_ok.1 hp, rfl⟩⟩

end Config
end ScopedStore
