/-
Name patterns that are patterns fit whole names only.

A pattern text is put between `^(?:` and `)$` and compiled as it then stands. When the text is a pattern by itself, it is
read in there as that pattern (`read_anchored`), and the compiled expression occurs in a name exactly when the pattern
reads the name from its first to its last character (`occursIn_anchored`).

Main result, `patterns_fit_whole_names`. It asks that the text be a pattern by itself, which the check of a configuration
does not: `broken_out_pattern` is a text that closes the parenthesis it is set in, passes for a pattern, and lets in names
that only begin with one part of it or only end with the other.
-/
import ScopedStore.Proofs.KeyRules
import ScopedStore.Proofs.ProperPatterns

namespace ScopedStore

namespace Pattern

open Read

/-- an expression between the ends of a text -/
def Regex.whole (r : Regex) : Regex := .cat (.look .textStart) (.cat (.group none r) (.look .textEnd))

/-- one step, where the text goes on -/
theorem Read.body_step {fuel room : Nat} {p q : Progress} {cs rest : List Char} {result : Nested × Groups × List Char}
    (hs : ¬ Stops (skipBlanks p.flags.extended cs))
    (ha : advance (fun room flags groups => body fuel room flags groups {}) room p (skipBlanks p.flags.extended cs) =
      some (q, rest))
    (h : body (fuel + 1) room p.flags p.groups p.branches cs = some result) :
    body fuel room q.flags q.groups q.branches rest = some result := by
  rw [body_succ hs, ha] at h
  exact h

/-- the group that a pattern is set in opens like any group without a number -/
theorem Read.advance_plain {inside : Inside} {room : Nat} (p : Progress) (cs : List Char)
    (hp : p.flags = {}) : advance inside (room + 1) p ('(' :: '?' :: ':' :: cs) =
      enclosed inside room p none {} p.groups cs := by
  obtain ⟨flags, groups, branches⟩ := p
  obtain rfl : flags = {} := hp
  rfl

/-- **A pattern is read between anchors as it is read by itself.** -/
theorem Regex.read_anchored {source : String} {r r' : Regex} (hr : read source.toList = some r)
    (ha : read (NamePattern.anchored source) = some r') : r' = r.whole := by
  obtain ⟨e, g, he, -, rfl⟩ := read_eq_some.1 hr
  obtain ⟨e', g', he', -, rfl⟩ := read_eq_some.1 ha
  have htext : NamePattern.anchored source = '^' :: '(' :: '?' :: ':' :: (source.toList ++ closing) := by
    simp [NamePattern.anchored, closing]
  rw [htext, List.length_cons, List.length_cons, List.length_cons, List.length_cons] at he'
  -- the anchor in front
  let start : Progress := ⟨{}, {}, ({} : Branches).add (.look .textStart) 0⟩
  replace he' := body_step (p := ⟨{}, {}, {}⟩) (q := start) (by simp [Stops, skipBlanks]) rfl he'
  -- the group, with the pattern and the parenthesis that closes it
  rw [body_succ (by simp [start, Stops, skipBlanks])] at he'
  obtain ⟨⟨q, rest⟩, hq, he'⟩ := Option.bind_eq_some_iff.1 he'
  obtain ⟨inner, groups, hinner, rfl⟩ := enclosed_eq_some.1 ((advance_plain start _ rfl).symm.trans hq)
  obtain ⟨rfl, -, hrest⟩ := body_follows _ _ (.on source.toList) he hinner
  obtain rfl : rest = ['$'] := (List.cons.inj (hrest.of_nil (by simp))).2
  -- the anchor behind
  dsimp only at he'
  replace he' := body_step (p := ⟨{}, groups, start.branches.add (.group none inner.regex) (inner.depth + 1)⟩)
    (q := ⟨{}, groups, (start.branches.add (.group none inner.regex) (inner.depth + 1)).add (.look .textEnd) 0⟩)
    (by simp [Stops, skipBlanks]) rfl he'
  rw [body_of_stops (.inl rfl)] at he'
  obtain ⟨rfl, -⟩ := Prod.mk.inj (Option.some.inj he')
  rfl

/-- between the ends of a text, an expression reads it from the first character to the last -/
theorem Regex.matches_whole {text : List Char} {r : Regex} :
    (∃ i j, i ≤ text.length ∧ r.whole.Matches text i j) ↔ r.Matches text 0 text.length := by
  have hstart {i : Nat} (hi : i ≤ text.length) : Look.textStart.holds (charBefore text i) text[i]? = true ↔ i = 0 := by
    cases i with
    | zero => simp [Look.holds, charBefore]
    | succ i => simp [Look.holds, charBefore]; omega
  have hend {k : Nat} (hk : k ≤ text.length) : Look.textEnd.holds (charBefore text k) text[k]? = true ↔ k = text.length := by
    simp [Look.holds]
    omega
  constructor
  · rintro ⟨i, j, hi, _, ⟨hs, rfl⟩, k, hm, he, rfl⟩
    obtain rfl := (hstart hi).1 hs
    have hk : k ≤ text.length := Matches.le (r := r) hm hi
    obtain rfl := (hend hk).1 he
    exact hm
  · intro hm
    exact ⟨0, text.length, Nat.zero_le _, 0, ⟨(hstart (Nat.zero_le _)).2 rfl, rfl⟩, text.length, hm,
      (hend le_rfl).2 rfl, rfl⟩

end Pattern

namespace NamePattern

open Pattern

variable {source : String} {p : NamePattern} {r : Regex}

theorem compile_eq_some : compile source = some p ↔
    p.source = source ∧ Regex.read (anchored source) = some p.regex ∧ p.regex.fits := by
  unfold compile
  obtain ⟨source', regex⟩ := p
  constructor
  · intro h
    split at h
    · rename_i regex' hr
      split_ifs at h with hf
      cases h
      exact ⟨rfl, hr, hf⟩
    · cases h
  · rintro ⟨rfl, hr, hf⟩
    simp only at hr hf
    simp only [hr, hf, if_true]

/-- a pattern fits the names that it reads from the first character to the last -/
theorem accepts_iff (hp : compile source = some p) (hr : Regex.read source.toList = some r) (name : String) :
    p.accepts name = true ↔ r.Matches name.toList 0 name.toList.length := by
  obtain ⟨-, ha, -⟩ := compile_eq_some.1 hp
  rw [accepts, Regex.occursIn_iff (Regex.proper_of_read ha), Regex.read_anchored hr ha, Regex.matches_whole]

end NamePattern

open Pattern

/-- **Patterns fit whole names.** Where the name pattern of a consistent configuration is a pattern by itself, a name is
accepted exactly when the pattern reads it from the first character to the last; so there is no key whose name only
begins or ends with text that the pattern reads. -/
theorem patterns_fit_whole_names {config : Config} (hv : config.validate = .ok ()) {r : Regex}
    (hr : Regex.read config.namePattern.toList = some r) :
    ∃ rules, config.keyRules = .ok rules ∧
      (∀ name, rules.pattern.accepts name = true ↔ r.Matches name.toList 0 name.toList.length) ∧
      ∀ ref k, rules.resolve ref = .ok k → r.Matches k.name.toList 0 k.name.toList.length := by
  obtain ⟨rules, hk⟩ := Config.exists_keyRules hv
  have hname := NamePattern.accepts_iff (Config.keyRules_eq_ok.1 hk).1 hr
  exact ⟨rules, hk, hname, fun ref k he => (hname k.name).1 (KeyRules.accepts_of_resolve he).name⟩

/-- one scope, and names that are one letter or two -/
def eitherConfig : Config where
  allowedScopes := .ofList ["env"]
  namePattern := "a|ab+"

theorem sample_patterns_fit_whole_names :
    ∃ r rules, Regex.read eitherConfig.namePattern.toList = some r ∧ eitherConfig.keyRules = .ok rules ∧
      (∀ name, rules.pattern.accepts name = true ↔ r.Matches name.toList 0 name.toList.length) := by
  have hv : eitherConfig.validate = .ok () := by decide +kernel
  have hr : Regex.read eitherConfig.namePattern.toList =
    some (.alt (.literal ['a']) (.cat (.literal ['a']) (.repeated (.literal ['b']) 1 none true))) := by decide +kernel
  obtain ⟨rules, hk, hname, -⟩ := patterns_fit_whole_names hv hr
  exact ⟨_, rules, hr, hk, hname⟩

/-- a text that closes the parenthesis it is set in, and opens one for the anchor behind -/
def brokenOutConfig : Config where
  allowedScopes := .ofList ["env"]
  namePattern := "a)|(?:b"

theorem broken_out_pattern : brokenOutConfig.validate = .ok () ∧
    Regex.read brokenOutConfig.namePattern.toList = none ∧
    (brokenOutConfig.keyRules.toOption.map fun rules => (rules.parse "env:ax").toOption) = some (some ⟨"env", "ax"⟩) ∧
    (brokenOutConfig.keyRules.toOption.map fun rules => (rules.parse "env:xb").toOption) = some (some ⟨"env", "xb"⟩) := by
  decide +kernel

end ScopedStore
