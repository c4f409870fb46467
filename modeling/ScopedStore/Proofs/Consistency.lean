/-
Consistent configurations.

The parts of a configuration are checked one after the other, enum tokens last. `Config.ConsistentUpToEnums` says that
everything before them is consistent; then the check comes down to that of the tokens
(`Config.validate_of_consistentUpToEnums`). No other part makes a collision of tokens be reported
(`Config.validate_eq_collision`).
-/
import Mathlib.Tactic
import ScopedStore.Config.Basic
import ScopedStore.Proofs.Result

namespace ScopedStore.Config

/-- everything is consistent that is checked before the enum tokens -/
structure ConsistentUpToEnums (config : Config) : Prop where
  scopes : config.checkScopes = .ok ()
  pattern : ∃ p, compilePattern config.namePattern = .ok p
  boolLiterals : config.checkBoolLiterals = .ok ()
  delimiters : config.checkNotation = .ok ()
  rules : config.checkRules = .ok ()

variable {config : Config} {a b : String}

theorem validate_of_consistentUpToEnums (h : config.ConsistentUpToEnums) : config.validate = config.checkEnums := by
  obtain ⟨p, hp⟩ := h.pattern
  unfold validate
  rw [h.scopes, hp, h.boolLiterals, h.delimiters, h.rules]
  rfl

theorem consistentUpToEnums_of_validate (h : config.validate = .ok ()) : config.ConsistentUpToEnums := by
  obtain ⟨_, hscopes, h⟩ := Result.bind_eq_ok.1 h
  obtain ⟨_, hpattern, h⟩ := Result.bind_eq_ok.1 h
  obtain ⟨p, hp, -⟩ := Result.map_eq_ok.1 hpattern
  obtain ⟨_, hliterals, h⟩ := Result.bind_eq_ok.1 h
  obtain ⟨_, hdelimiters, h⟩ := Result.bind_eq_ok.1 h
  obtain ⟨_, hrules, -⟩ := Result.bind_eq_ok.1 h
  exact ⟨hscopes, ⟨p, hp⟩, hliterals, hdelimiters, hrules⟩

/-! ## What is not reported as a collision -/

theorem compilePattern_ne_collision {source : String} : compilePattern source ≠ .error (.enumCollision a b) := by
  unfold compilePattern
  cases NamePattern.compile source <;> simp

theorem checkScopes_ne_collision : config.checkScopes ≠ .error (.enumCollision a b) := by
  intro h
  unfold checkScopes at h
  split_ifs at h
  · cases h
  · rcases Result.bind_eq_error.1 h with h | ⟨identifier, -, h⟩
    · exact compilePattern_ne_collision h
    · split at h <;> cases h

theorem checkBoolLiterals_ne_collision : config.checkBoolLiterals ≠ .error (.enumCollision a b) := by
  intro h
  unfold checkBoolLiterals at h
  simp only at h
  split at h
  · cases h
  · split at h <;> cases h

theorem checkNotation_ne_collision : config.checkNotation ≠ .error (.enumCollision a b) := by
  intro h
  unfold checkNotation at h
  split at h
  · split at h <;> cases h
  · cases h

theorem checkRules_ne_collision : config.checkRules ≠ .error (.enumCollision a b) := by
  intro h
  unfold checkRules at h
  split at h <;> cases h

/-- collisions are looked for last, and nothing else is reported as one -/
theorem validate_eq_collision : config.validate = .error (.enumCollision a b) ↔
    config.ConsistentUpToEnums ∧ config.checkEnums = .error (.enumCollision a b) := by
  constructor
  · intro h
    rcases Result.bind_eq_error.1 h with h | ⟨_, hscopes, h⟩
    · exact absurd h checkScopes_ne_collision
    rcases Result.bind_eq_error.1 h with h | ⟨_, hpattern, h⟩
    · exact absurd (Result.map_eq_error.1 h) compilePattern_ne_collision
    obtain ⟨p, hp, -⟩ := Result.map_eq_ok.1 hpattern
    rcases Result.bind_eq_error.1 h with h | ⟨_, hliterals, h⟩
    · exact absurd h checkBoolLiterals_ne_collision
    rcases Result.bind_eq_error.1 h with h | ⟨_, hdelimiters, h⟩
    · exact absurd h checkNotation_ne_collision
    rcases Result.bind_eq_error.1 h with h | ⟨_, hrules, h⟩
    · exact absurd h checkRules_ne_collision
    exact ⟨⟨hscopes, ⟨p, hp⟩, hliterals, hdelimiters, hrules⟩, h⟩
  · rintro ⟨hconsistent, h⟩
    rw [validate_of_consistentUpToEnums hconsistent, h]

end ScopedStore.Config
