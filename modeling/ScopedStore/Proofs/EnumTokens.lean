/-
Enum tokens, and the literals that they store.

The check of the tokens compares each one with the last one before it that has the same lower case. As long as the
tokens so far agree, that one speaks for all of them, so the check goes through exactly when all tokens agree, and else
it names two that do not (`Config.verdict_checkTokens`); and no other fault is reported as one
(`Config.exists_collision_iff`). In a consistent configuration tokens that are looked up alike agree
(`Dialect.agree_foldToken`), so that the order in which they are entered for the lookup does not matter.

Main result, `enum_tokens_are_unambiguous`: collisions are reported exactly when there is one, and in a consistent
configuration a word resolves to a literal exactly when a token that is looked up alike stores it.
-/
import ScopedStore.Proofs.Consistency
import ScopedStore.Proofs.Sentences
import ScopedStore.Proofs.Tables

namespace ScopedStore

open Unicode

namespace Config

/-- two tokens with the same lower case that store different literals -/
def Collide (config : Config) (a b : String) : Prop :=
  lowercase a = lowercase b ∧ ∃ l l', config.enumMap[a]? = some l ∧ config.enumMap[b]? = some l' ∧ l ≠ l'

/-- the token and the word are the same, up to case where case does not count -/
def Alike (config : Config) (token word : String) : Prop :=
  if config.enumCaseSensitive then token = word else lowercase token = lowercase word

instance (config : Config) (token word : String) : Decidable (config.Alike token word) :=
  inferInstanceAs (Decidable (if config.enumCaseSensitive = true then token = word else lowercase token = lowercase word))

variable {config : Config}

/-! ## Going through the tokens -/

/-- entries whose tokens have the same lower case store the same literal -/
def Agree (entries : List (String × String)) : Prop :=
  ∀ x ∈ entries, ∀ y ∈ entries, lowercase x.1 = lowercase y.1 → x.2 = y.2

/-- what a check of entries may say: that they agree, or which two of them do not -/
inductive Verdict (entries : List (String × String)) : Except ConfigError Unit → Prop where
  | agree (h : Agree entries) : Verdict entries (.ok ())
  | clash {x y : String × String} (hx : x ∈ entries) (hy : y ∈ entries) (low : lowercase x.1 = lowercase y.1)
      (literals : x.2 ≠ y.2) : Verdict entries (.error (.enumCollision x.1 y.1))

theorem agree_nil : Agree [] := nofun

/-- one entry more agrees with all of them when each one before agrees with it -/
theorem Agree.concat {entries : List (String × String)} {x : String × String} (h : Agree entries)
    (hx : ∀ y ∈ entries, lowercase y.1 = lowercase x.1 → y.2 = x.2) : Agree (entries ++ [x]) := by
  intro y hy z hz hlow
  rw [List.mem_append, List.mem_singleton] at hy hz
  rcases hy with hy | rfl
  · rcases hz with hz | rfl
    · exact h y hy z hz hlow
    · exact hx y hy hlow
  · rcases hz with hz | rfl
    · exact (hx z hz hlow.symm).symm
    · rfl

/-- what the check knows after some entries: the last one of each lower case -/
def seen (entries : List (String × String)) : Std.ExtTreeMap String (String × String) :=
  Table.fill (lowercase ·.1) id entries

theorem getElem?_seen (entries : List (String × String)) (low : String) :
    (seen entries)[low]? = entries.reverse.find? (lowercase ·.1 = low) := by
  rw [seen, Table.getElem?_fill, Option.map_id_fun, id]

/-- an entry passes when the last one of the same lower case, if there is one, has the same literal -/
theorem checkTokens_cons (before : List (String × String)) (x : String × String) (rest : List (String × String)) :
    checkTokens (seen before) (x :: rest) =
      match before.reverse.find? (lowercase ·.1 = lowercase x.1) with
      | some other =>
        if other.2 ≠ x.2 then .error (.enumCollision other.1 x.1) else checkTokens (seen (before ++ [x])) rest
      | none => checkTokens (seen (before ++ [x])) rest := by
  obtain ⟨token, literal⟩ := x
  have hseen : seen (before ++ [(token, literal)]) = (seen before).insert (lowercase token) (token, literal) :=
    Table.fill_concat ..
  rw [hseen, checkTokens, ← getElem?_seen]
  cases (seen before)[lowercase token]? <;> rfl

/-- **The check of the tokens.** As long as they agree, the last one of a lower case speaks for those before it. -/
theorem verdict_checkTokens {before : List (String × String)} (h : Agree before) (rest : List (String × String)) :
    Verdict (before ++ rest) (checkTokens (seen before) rest) := by
  induction rest generalizing before with
  | nil =>
    rw [List.append_nil]
    exact .agree h
  | cons x rest ih =>
    rw [checkTokens_cons]
    cases hfind : before.reverse.find? (lowercase ·.1 = lowercase x.1) with
    | none =>
      have hagree : Agree (before ++ [x]) := h.concat fun y hy hlow =>
        absurd (decide_eq_true hlow) (List.find?_eq_none.1 hfind y (List.mem_reverse.2 hy))
      rw [List.append_cons before x rest]
      exact ih hagree
    | some last =>
      have hlast : last ∈ before := List.mem_reverse.1 (List.mem_of_find?_eq_some hfind)
      have hlow : lowercase last.1 = lowercase x.1 := by simpa using List.find?_some hfind
      dsimp only
      split_ifs with hliteral
      · exact .clash (List.mem_append_left _ hlast) (List.mem_append_right _ List.mem_cons_self) hlow hliteral
      · have hagree : Agree (before ++ [x]) := h.concat fun y hy hy' =>
          (h y hy last hlast (hy'.trans hlow.symm)).trans (not_not.1 hliteral)
        rw [List.append_cons before x rest]
        exact ih hagree

theorem agree_enumMap_iff : Agree config.enumMap.toList ↔ ∀ a b, ¬config.Collide a b := by
  constructor
  · rintro hagree a b ⟨hlow, l, l', ha, hb, hne⟩
    exact hne (hagree (a, l) (Std.ExtTreeMap.mem_toList_iff_getElem?_eq_some.2 ha) (b, l')
      (Std.ExtTreeMap.mem_toList_iff_getElem?_eq_some.2 hb) hlow)
  · rintro hnone ⟨a, l⟩ ha ⟨b, l'⟩ hb hlow
    by_contra hne
    exact hnone a b ⟨hlow, l, l', Std.ExtTreeMap.mem_toList_iff_getElem?_eq_some.1 ha,
      Std.ExtTreeMap.mem_toList_iff_getElem?_eq_some.1 hb, hne⟩

/-- where case counts, tokens cannot collide -/
theorem checkEnums_eq_ok :
    config.checkEnums = .ok () ↔ config.enumCaseSensitive = true ∨ ∀ a b, ¬config.Collide a b := by
  unfold checkEnums
  cases config.enumCaseSensitive with
  | true => simp
  | false =>
    have hverdict : Verdict config.enumMap.toList (checkTokens ∅ config.enumMap.toList) :=
      verdict_checkTokens agree_nil _
    rw [← agree_enumMap_iff]
    simp only [Bool.false_eq_true, if_false, false_or]
    generalize checkTokens ∅ config.enumMap.toList = r at hverdict ⊢
    cases hverdict with
    | agree h => simpa using h
    | clash hx hy low literals => simpa using fun h : Agree _ => literals (h _ hx _ hy low)

/-- what the check reports is a collision -/
theorem checkEnums_eq_error {e : ConfigError} (h : config.checkEnums = .error e) :
    config.enumCaseSensitive = false ∧ ∃ a b, e = .enumCollision a b ∧ config.Collide a b := by
  unfold checkEnums at h
  cases hcase : config.enumCaseSensitive with
  | true =>
    rw [hcase] at h
    cases h
  | false =>
    have hverdict : Verdict config.enumMap.toList (checkTokens ∅ config.enumMap.toList) :=
      verdict_checkTokens agree_nil _
    rw [hcase, if_neg Bool.false_ne_true] at h
    rw [h] at hverdict
    cases hverdict with
    | @clash x y hx hy low literals =>
      exact ⟨rfl, x.1, y.1, rfl, low, x.2, y.2, Std.ExtTreeMap.mem_toList_iff_getElem?_eq_some.1 hx,
        Std.ExtTreeMap.mem_toList_iff_getElem?_eq_some.1 hy, literals⟩

/-! ## Reported collisions -/

theorem checkEnums_of_validate (h : config.validate = .ok ()) : config.checkEnums = .ok () := by
  rw [← validate_of_consistentUpToEnums (consistentUpToEnums_of_validate h), h]

/-- those that are reported collide -/
theorem collide_of_validate {a b : String} (h : config.validate = .error (.enumCollision a b)) : config.Collide a b := by
  obtain ⟨-, herror⟩ := validate_eq_collision.1 h
  obtain ⟨-, a', b', heq, hcollide⟩ := checkEnums_eq_error herror
  obtain ⟨rfl, rfl⟩ := ConfigError.enumCollision.inj heq
  exact hcollide

/-- **A collision is reported exactly when there is one** and nothing before it is wrong. -/
theorem exists_collision_iff : (∃ a b, config.validate = .error (.enumCollision a b)) ↔
    config.ConsistentUpToEnums ∧ config.enumCaseSensitive = false ∧ ∃ a b, config.Collide a b := by
  constructor
  · rintro ⟨a, b, h⟩
    obtain ⟨hconsistent, herror⟩ := validate_eq_collision.1 h
    exact ⟨hconsistent, (checkEnums_eq_error herror).1, a, b, collide_of_validate h⟩
  · rintro ⟨hconsistent, hcase, a, b, hcollide⟩
    cases hcheck : config.checkEnums with
    | ok u =>
      rcases checkEnums_eq_ok.1 hcheck with hcase' | hnone
      · exact absurd (hcase.symm.trans hcase') Bool.false_ne_true
      · exact absurd hcollide (hnone a b)
    | error e =>
      obtain ⟨-, a, b, rfl, -⟩ := checkEnums_eq_error hcheck
      exact ⟨a, b, validate_eq_collision.2 ⟨hconsistent, hcheck⟩⟩

end Config

/-! ## Looking tokens up -/

namespace Dialect

variable {config : Config} {keys : KeyRules} {word literal : String}

theorem foldToken_eq_iff {token : String} : foldToken config token = foldToken config word ↔ config.Alike token word := by
  unfold foldToken Config.Alike
  split_ifs <;> rfl

/-- tokens that are looked up alike store the same literal -/
theorem agree_foldToken (h : config.checkEnums = .ok ()) : ∀ x ∈ config.enumMap.toList, ∀ y ∈ config.enumMap.toList,
    foldToken config x.1 = foldToken config y.1 → x.2 = y.2 := by
  rintro ⟨token, literal⟩ hx ⟨token', literal'⟩ hy hfold
  have hfound : config.enumMap[token]? = some literal := Std.ExtTreeMap.mem_toList_iff_getElem?_eq_some.1 hx
  have hfound' : config.enumMap[token']? = some literal' := Std.ExtTreeMap.mem_toList_iff_getElem?_eq_some.1 hy
  have halike := foldToken_eq_iff.1 hfold
  unfold Config.Alike at halike
  rcases Config.checkEnums_eq_ok.1 h with hcase | hnone
  · rw [if_pos hcase] at halike
    obtain rfl : token = token' := halike
    exact Option.some.inj (hfound.symm.trans hfound')
  · split_ifs at halike
    · obtain rfl : token = token' := halike
      exact Option.some.inj (hfound.symm.trans hfound')
    · by_contra hne
      exact hnone token token' ⟨halike, literal, literal', hfound, hfound', hne⟩

/-- **A word stands for the literal of the tokens that are looked up alike.** -/
theorem resolveEnum_iff_alike (h : config.checkEnums = .ok ()) : (ofRules config keys).resolveEnum word = some literal ↔
    ∃ token, config.enumMap[token]? = some literal ∧ config.Alike token word := by
  rw [resolveEnum_ofRules, Table.getElem?_fill_eq_some (agree_foldToken h)]
  constructor
  · rintro ⟨⟨token, literal⟩, hentry, hfold, rfl⟩
    exact ⟨token, Std.ExtTreeMap.mem_toList_iff_getElem?_eq_some.1 hentry, foldToken_eq_iff.1 hfold⟩
  · rintro ⟨token, hfound, halike⟩
    exact ⟨(token, literal), Std.ExtTreeMap.mem_toList_iff_getElem?_eq_some.2 hfound, foldToken_eq_iff.2 halike, rfl⟩

/-- words that are looked up alike stand for the same -/
theorem resolveEnum_congr {word' : String} (h : config.Alike word word') :
    (ofRules config keys).resolveEnum word = (ofRules config keys).resolveEnum word' := by
  have hfold : foldToken config word = foldToken config word' := foldToken_eq_iff.2 h
  rw [resolveEnum_ofRules, resolveEnum_ofRules, hfold]

end Dialect

/-! ## Main result -/

/-- **Enum tokens are unambiguous.** Of any configuration, a collision of two tokens is reported exactly when all that is
checked before is consistent, case does not count, and some tokens of the same lower case store different literals; and
those that are reported are such tokens. A configuration without any such fault has a dialect, in which a word resolves to
a literal exactly when some token stores it that is the word, or, where case does not count, has its lower case. So each
token stands for its own literal, words that are looked up alike stand for the same one, and other words for none. -/
theorem enum_tokens_are_unambiguous (config : Config) :
    ((∃ a b, config.validate = .error (.enumCollision a b)) ↔
        config.ConsistentUpToEnums ∧ config.enumCaseSensitive = false ∧ ∃ a b, config.Collide a b) ∧
      (∀ a b, config.validate = .error (.enumCollision a b) → config.Collide a b) ∧
      (config.validate = .ok () → ∃ d, Dialect.ofConfig config = .ok d ∧
        (∀ word literal, d.resolveEnum word = some literal ↔
          ∃ token, config.enumMap[token]? = some literal ∧ config.Alike token word) ∧
        (∀ token literal, config.enumMap[token]? = some literal → d.resolveEnum token = some literal) ∧
        (∀ word word', config.Alike word word' → d.resolveEnum word = d.resolveEnum word') ∧
        ∀ word, (∀ token ∈ config.enumMap, ¬config.Alike token word) → d.resolveEnum word = none) := by
  refine ⟨Config.exists_collision_iff, fun a b => Config.collide_of_validate, fun h => ?_⟩
  have hcheck : config.checkEnums = .ok () := Config.checkEnums_of_validate h
  obtain ⟨keys, hkeys⟩ := Config.exists_keyRules h
  refine ⟨_, Dialect.ofConfig_eq_ok.2 ⟨keys, hkeys, rfl⟩, fun word literal => Dialect.resolveEnum_iff_alike hcheck,
    fun token literal hfound => ?_, fun word word' => Dialect.resolveEnum_congr, fun word hnone => ?_⟩
  · exact (Dialect.resolveEnum_iff_alike hcheck).2 ⟨token, hfound, Dialect.foldToken_eq_iff.1 rfl⟩
  · refine Option.eq_none_iff_forall_ne_some.2 fun literal hword => ?_
    obtain ⟨token, hfound, halike⟩ := (Dialect.resolveEnum_iff_alike hcheck).1 hword
    exact hnone token (Std.ExtTreeMap.isSome_getElem?_iff_mem.1 (by rw [hfound]; rfl)) halike

/-- `sampleConfig` with tokens of which two differ only in case, where case does not count -/
def foldedConfig (first second : String) : Config :=
  { Engine.sampleConfig with
    enumMap := .ofList [("On", first), ("on", second), ("off", "0")]
    enumCaseSensitive := false }

theorem folded_enum_tokens_are_unambiguous :
    (∃ d, Dialect.ofConfig (foldedConfig "1" "1") = .ok d ∧ d.resolveEnum "On" = some "1" ∧
      d.resolveEnum "on" = some "1" ∧ d.resolveEnum "OFF" = some "0" ∧ d.resolveEnum "maybe" = none) ∧
    ∃ a b, (foldedConfig "1" "2").validate = .error (.enumCollision a b) := by
  have hvalid : (foldedConfig "1" "1").validate = .ok () := by decide +kernel
  have hconsistent := Config.consistentUpToEnums_of_validate hvalid
  have hfolded : Unicode.lowercase "On" = Unicode.lowercase "on" ∧ Unicode.lowercase "off" = Unicode.lowercase "OFF" := by
    decide +kernel
  have htokens : (foldedConfig "1" "1").enumMap.keys = ["On", "off", "on"] := by decide +kernel
  constructor
  · obtain ⟨-, -, h⟩ := enum_tokens_are_unambiguous (foldedConfig "1" "1")
    obtain ⟨d, hd, -, hown, halike, hother⟩ := h hvalid
    have hoff : d.resolveEnum "off" = some "0" := hown _ _ (by decide +kernel)
    refine ⟨d, hd, hown _ _ (by decide +kernel), hown _ _ (by decide +kernel), ?_, hother _ fun token ht => ?_⟩
    · rw [← halike "off" "OFF" hfolded.2, hoff]
    · rw [← Std.ExtTreeMap.mem_keys, htokens] at ht
      revert token
      decide +kernel
  · refine (enum_tokens_are_unambiguous (foldedConfig "1" "2")).1.2 ⟨?_, rfl, "On", "on", hfolded.1, ?_⟩
    · exact ⟨hconsistent.scopes, hconsistent.pattern, hconsistent.boolLiterals, hconsistent.delimiters, hconsistent.rules⟩
    · exact ⟨"1", "2", by decide +kernel, by decide +kernel, by decide⟩

end ScopedStore
