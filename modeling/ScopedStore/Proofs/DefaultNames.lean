/-
Names that fit the default pattern are words of scripts.

The default pattern is written with classes of letters and numerals, and the words of scripts with classes of running
text. `NamePattern.accepts_default` says which names fit: a letter or an underscore comes first, and after it come
letters, numerals and underscores. Such a name is a word (`Unicode.IsIdentifier.isName`).
- `Config.isIdentifier_of_allowed`: the scopes of a consistent configuration are such names, whatever its own pattern.
- `KeyRules.isToken_of_accepts`: the text of an accepted key is a key token, when names are held to the default pattern.
-/
import ScopedStore.Proofs.CharSets
import ScopedStore.Proofs.Grammar
import ScopedStore.Proofs.WholeNames

namespace ScopedStore

open Pattern Unicode

/-! ## Classes -/

namespace Pattern.CharSet

variable {c : Char}

theorem ordered_letterRanges : Ordered letterRanges := by decide +kernel

theorem ordered_letters : Ordered (ofTables Category.letter).ranges := ordered_ofTable ordered_letterRanges

theorem contains_letters : (ofTables Category.letter).contains c = true ↔ isLetter c = true :=
  contains_ofTable ordered_letterRanges

theorem ordered_numeralTables : ∀ rows ∈ [decimalDigits, letterNumbers, otherNumbers], Ordered rows := by
  decide +kernel

theorem ordered_numerals : Ordered (ofTables Category.number).ranges := ordered_unions ordered_numeralTables

theorem contains_numerals : (ofTables Category.number).contains c = true ↔ isNumeral c = true := by
  rw [Category.number]
  exact (contains_unions ordered_numeralTables).trans (by simp [isNumeral, or_assoc])

/-- what the default pattern reads first -/
def nameStart : CharSet := (none.union (ofTables Category.letter)).union (single '_')

/-- what it reads after that -/
def nameChar : CharSet := ((none.union (ofTables Category.letter)).union (ofTables Category.number)).union (single '_')

theorem ordered_single (c : Char) : Ordered (single c).ranges := List.pairwise_singleton _ _

theorem contains_none : none.contains c = false := rfl

theorem contains_nameStart : nameStart.contains c = true ↔ isLetter c = true ∨ c = '_' := by
  have hnone : Ordered none.ranges := .nil
  rw [nameStart, contains_union (ordered_union hnone ordered_letters) (ordered_single '_'),
    contains_union hnone ordered_letters, contains_letters, contains_single, contains_none]
  simp

theorem contains_nameChar : nameChar.contains c = true ↔ isLetter c = true ∨ isNumeral c = true ∨ c = '_' := by
  have hnone : Ordered none.ranges := .nil
  have hletters := ordered_union hnone ordered_letters
  rw [nameChar, contains_union (ordered_union hletters ordered_numerals) (ordered_single '_'),
    contains_union hletters ordered_numerals, contains_union hnone ordered_letters, contains_letters,
    contains_numerals, contains_single, contains_none]
  simp [or_assoc]

end Pattern.CharSet

/-! ## Names -/

/-- a letter or an underscore, and then letters, numerals and underscores -/
inductive Unicode.IsIdentifier : List Char → Prop where
  | mk {c : Char} {cs : List Char} (start : isLetter c = true ∨ c = '_')
      (chars : ∀ d ∈ cs, isLetter d = true ∨ isNumeral d = true ∨ d = '_') : IsIdentifier (c :: cs)

/-- what a pattern knows as a name, running text knows as a word -/
theorem Unicode.IsIdentifier.isName {cs : List Char} (h : IsIdentifier cs) : Script.IsName cs := by
  obtain ⟨hstart, hchars⟩ := h
  refine .mk ?_ fun d hd => ?_
  · rcases hstart with h | rfl
    · simp [Script.isWordStart, isAlphabetic_of_isLetter h]
    · simp [Script.isWordStart]
  · rcases hchars d hd with h | h | rfl
    · simp [Script.isWordChar, isAlphanumeric_of_isLetter h]
    · simp [Script.isWordChar, isAlphanumeric_of_isNumeral h]
    · simp [Script.isWordChar]

namespace Pattern.Regex

/-- characters of a set are read one after the other up to the end of the text -/
theorem exists_steps_set {octets : Bool} {s : CharSet} (before cs : List Char) :
    (∃ n, Steps ((set octets s).Matches (before ++ cs)) n before.length (before ++ cs).length) ↔
      ∀ c ∈ cs, s.contains c = true := by
  induction cs generalizing before with
  | nil =>
    rw [List.append_nil]
    exact ⟨fun _ => by simp, fun _ => ⟨0, .none _⟩⟩
  | cons c cs ih =>
    have hc : (before ++ c :: cs)[before.length]? = some c := by simp
    specialize ih (before ++ [c])
    rw [List.append_assoc, List.singleton_append, List.length_append, List.length_singleton] at ih
    rw [List.forall_mem_cons, ← ih]
    constructor
    · rintro ⟨n, h⟩
      cases n with
      | zero => simpa using Steps.zero_iff.1 h
      | succ n =>
        obtain ⟨_, ⟨d, hd, hset, rfl⟩, hs⟩ := Steps.succ_iff.1 h
        obtain rfl : c = d := Option.some.inj (hc.symm.trans hd)
        exact ⟨hset, n, hs⟩
    · rintro ⟨hset, n, hs⟩
      exact ⟨n + 1, .more ⟨c, hc, hset, rfl⟩ hs⟩

end Pattern.Regex

namespace NamePattern

variable {p : NamePattern}

theorem read_default : Regex.read defaultNamePattern.toList =
    some (.cat (.set false CharSet.nameStart) (.repeated (.set false CharSet.nameChar) 0 none true)) := rfl

/-- **The default pattern fits the identifiers.** -/
theorem accepts_default (hp : compile defaultNamePattern = some p) (name : String) :
    p.accepts name = true ↔ IsIdentifier name.toList := by
  rw [accepts_iff hp read_default]
  constructor
  · rintro ⟨j, ⟨c, hc, hstart, rfl⟩, n, -, -, hsteps⟩
    revert hc hsteps
    cases name.toList with
    | nil => simp
    | cons d cs =>
      intro hc hsteps
      obtain rfl : d = c := Option.some.inj hc
      have hchars := (Regex.exists_steps_set [d] cs).1 ⟨n, hsteps⟩
      exact .mk (CharSet.contains_nameStart.1 hstart) fun e he => CharSet.contains_nameChar.1 (hchars e he)
  · generalize name.toList = text
    rintro ⟨hstart, hchars⟩
    rename_i c cs
    obtain ⟨n, hsteps⟩ := (@Regex.exists_steps_set false CharSet.nameChar [c] cs).2
      fun e he => CharSet.contains_nameChar.2 (hchars e he)
    exact ⟨1, ⟨c, rfl, CharSet.contains_nameStart.2 hstart, rfl⟩, n, Nat.zero_le n, by simp, hsteps⟩

end NamePattern

/-! ## Keys -/

theorem Config.accepts_of_checkScopes {config : Config} (h : config.checkScopes = .ok ()) :
    ∃ p, NamePattern.compile defaultNamePattern = some p ∧ ∀ scope ∈ config.allowedScopes, p.accepts scope = true := by
  unfold checkScopes at h
  split_ifs at h
  · cases h
  · obtain ⟨p, hp, h⟩ := Result.bind_eq_ok.1 h
    refine ⟨p, compilePattern_eq_ok.1 hp, fun scope hs => ?_⟩
    split at h
    · cases h
    · rename_i hnone
      simpa using List.find?_eq_none.1 hnone scope (Std.ExtTreeSet.mem_toList.2 hs)

/-- the scopes of a consistent configuration are identifiers -/
theorem Config.isIdentifier_of_allowed {config : Config} (hv : config.validate = .ok ()) {scope : String}
    (hs : scope ∈ config.allowedScopes) : IsIdentifier scope.toList := by
  obtain ⟨p, hp, hall⟩ := accepts_of_checkScopes (consistentUpToEnums_of_validate hv).scopes
  exact (NamePattern.accepts_default hp scope).1 (hall scope hs)

/-- **The text of an accepted key is a key token.** -/
theorem KeyRules.isToken_of_accepts {config : Config} (hv : config.validate = .ok ())
    (hd : config.namePattern = defaultNamePattern) {rules : KeyRules} (hr : config.keyRules = .ok rules) {k : Key}
    (hk : rules.Accepts k) : Script.IsToken k.text.toList (.key k.text) := by
  obtain ⟨hpattern, hscopes⟩ := Config.keyRules_eq_ok.1 hr
  have hscope : IsIdentifier k.scope.toList :=
    Config.isIdentifier_of_allowed hv (hscopes ▸ Std.ExtTreeSet.mem_iff_contains.2 hk.scope)
  have hname : IsIdentifier k.name.toList := (NamePattern.accepts_default (hd ▸ hpattern) k.name).1 hk.name
  have htoken := Script.IsToken.key hscope.isName hname.isName.chars
  rwa [← Key.toList_text, String.ofList_toList] at htoken

end ScopedStore
