/-
Which fault of a statement is reported.

`Fault` lists what can be wrong with a statement, each fault with the check that finds it and the error that tells it.
The checks look at the statement independently of each other, so that one statement may have faults of several of them.
`Check.First` picks the fault of the first check that finds one.

Main result, `the_first_fault_is_reported`: the analysis fails with exactly that fault. The command comes first, and a
command that is not enabled is a fault of it, but for a plain `set`: whether that is enabled is checked last, when it is
known what its key makes of it (`disabled_set_shows_its_scope`).
-/
import ScopedStore.Proofs.Sentences

namespace ScopedStore

open Script (TokenKind)

/-! ## Checks -/

/-- the checks of a statement -/
inductive Check where
  | command
  | key
  | arity
  | operand
  /-- what a plain `set` turns out to be is enabled -/
  | plainSet
  deriving DecidableEq

namespace Check

/-- the order in which the checks are made -/
def order : List Check := [.command, .key, .arity, .operand, .plainSet]

/-- the error is a fault that one of the checks finds, and those before it in the list find nothing -/
def First (checks : List Check) (faults : Check → SemanticError → Prop) (e : SemanticError) : Prop :=
  ∃ before check after, checks = before ++ check :: after ∧ faults check e ∧
    ∀ earlier ∈ before, ∀ e', ¬faults earlier e'

variable {faults faults' : Check → SemanticError → Prop} {check : Check} {checks : List Check} {e : SemanticError}

theorem not_first_nil : ¬First [] faults e := by
  rintro ⟨before, check, after, h, -⟩
  simp at h

theorem first_cons :
    First (check :: checks) faults e ↔ faults check e ∨ (∀ e', ¬faults check e') ∧ First checks faults e := by
  constructor
  · rintro ⟨_ | ⟨first, before⟩, found, after, horder, hfault, hearlier⟩
    · obtain ⟨rfl, -⟩ := List.cons.inj horder
      exact .inl hfault
    · obtain ⟨rfl, rfl⟩ := List.cons.inj horder
      obtain ⟨hfirst, hearlier⟩ := List.forall_mem_cons.1 hearlier
      exact .inr ⟨hfirst, before, found, after, rfl, hfault, hearlier⟩
  · rintro (hfault | ⟨hfirst, before, found, after, rfl, hfault, hearlier⟩)
    · exact ⟨[], check, checks, rfl, hfault, by simp⟩
    · exact ⟨check :: before, found, after, rfl, hfault, List.forall_mem_cons.2 ⟨hfirst, hearlier⟩⟩

theorem first_singleton : First [check] faults e ↔ faults check e := by simp [first_cons, not_first_nil]

theorem first_append {before after : List Check} : First (before ++ after) faults e ↔
    First before faults e ∨ (∀ e', ¬First before faults e') ∧ First after faults e := by
  induction before with
  | nil => simp [not_first_nil]
  | cons check before ih =>
    -- on both sides the head comes first, and what is left is said of lists that are shorter
    simp only [List.cons_append, first_cons, ih]
    grind

/-- a fault is found when one of the checks finds one -/
theorem exists_first : (∃ e, First checks faults e) ↔ ∃ check ∈ checks, ∃ e, faults check e := by
  constructor
  · rintro ⟨e, before, check, after, rfl, hfault, -⟩
    exact ⟨check, by simp, e, hfault⟩
  · rintro ⟨check, hm, e, hfault⟩
    induction checks with
    | nil => cases hm
    | cons head checks ih =>
      by_cases hhead : ∃ e', faults head e'
      · exact hhead.imp fun e' h => first_cons.2 (.inl h)
      · obtain rfl | hm := List.mem_cons.1 hm
        · exact absurd ⟨e, hfault⟩ hhead
        · exact (ih hm).imp fun e' h => first_cons.2 (.inr ⟨fun e h' => hhead ⟨e, h'⟩, h⟩)

theorem not_exists_first : (∀ e, ¬First checks faults e) ↔ ∀ check ∈ checks, ∀ e, ¬faults check e := by
  simpa using not_congr exists_first

/-! ### What makes the checks -/

section Makes

variable {α β : Type} {x : Except SemanticError α} {f : α → Except SemanticError β}

/-- the checks are made in this order: the first fault they find is the error -/
def Makes (checks : List Check) (faults : Check → SemanticError → Prop) (x : Except SemanticError α) : Prop :=
  ∀ e, x = .error e ↔ First checks faults e

theorem makes_ok (a : α) : Makes [] faults (.ok a : Except SemanticError α) := fun e => by simp [not_first_nil]

theorem makes_singleton : Makes [check] faults x ↔ ∀ e, x = .error e ↔ faults check e := by
  simp only [Makes, first_singleton]

/-- checks that come one after the other -/
theorem Makes.bind {before after : List Check} (hx : Makes before faults x)
    (hf : ∀ a, x = .ok a → Makes after faults (f a)) : Makes (before ++ after) faults (x >>= f) := by
  intro e
  rw [Result.bind_eq_error, first_append]
  cases x with
  | error e' =>
    have hfirst : First before faults e' := (hx e').1 rfl
    simp only [hx e, reduceCtorEq, false_and, exists_false, or_false]
    exact ⟨.inl, fun h => h.elim id fun h => absurd hfirst (h.1 e')⟩
  | ok a =>
    have hnone : ∀ e', ¬First before faults e' := fun e' h => by cases (hx e').2 h
    simp only [reduceCtorEq, false_or, Except.ok.injEq, exists_eq_left', hf a rfl e, hnone, not_false_eq_true,
      implies_true, true_and]

/-- a check that finds nothing need not be made -/
theorem Makes.skip (h : ∀ e, ¬faults check e) (hx : Makes checks faults x) : Makes (check :: checks) faults x := by
  intro e
  rw [hx e, first_cons]
  simp [h]

/-- after a fault no check is made -/
theorem Makes.stop (hfault : faults check e) (hx : ∀ e', x = .error e' ↔ faults check e') :
    Makes (check :: checks) faults x := by
  intro e'
  rw [hx e', first_cons]
  exact ⟨.inl, fun h => h.elim id fun h => absurd hfault (h.1 e)⟩

theorem Makes.congr (h : ∀ check ∈ checks, ∀ e, faults check e ↔ faults' check e) (hx : Makes checks faults x) :
    Makes checks faults' x := by
  intro e
  rw [hx e]
  clear hx
  induction checks with
  | nil => simp [not_first_nil]
  | cons check checks ih =>
    obtain ⟨hcheck, hchecks⟩ := List.forall_mem_cons.1 h
    simp only [first_cons, hcheck, ih hchecks]

end Makes

end Check

/-! ## Faults -/

/-- what a command takes for an operand -/
inductive OperandType where
  | nothing
  | number
  /-- a number or an enum token -/
  | value
  deriving DecidableEq

namespace OperandType

def count : OperandType → Nat
  | nothing => 0
  | number | value => 1

/-- how an error names the operands that are expected -/
def wording : OperandType → String
  | nothing => "no operands"
  | number => "one number"
  | value => "one value"

end OperandType

namespace CommandKind

def operandType : CommandKind → OperandType
  | .clear => .nothing
  | .inc | .dec => .number
  | .set | .listAppend | .setAppend => .value

/-- the tokens begin with the words of the command, and `rest` comes after them; `set append` is no plain `set` -/
structure Opens (kind : CommandKind) (tokens rest : List TokenKind) : Prop where
  words : tokens = (Dialect.words kind).map .keyword ++ rest
  whole : kind = .set → rest.head? ≠ some (.keyword .append)

/-- the operands among the tokens after the key: the `to` of a plain `set` is none -/
def operandsAmong : CommandKind → List TokenKind → List TokenKind
  | .set, .keyword .to :: operands => operands
  | _, operands => operands

end CommandKind

/-- a token is no accepted key: it is no key at all, or its scope is not allowed, or else its name is not accepted -/
inductive KeyFault (keys : KeyRules) : TokenKind → SemanticError → Prop where
  | other {token : TokenKind} (h : ∀ raw, token ≠ .key raw) : KeyFault keys token (.invalidKey token.text)
  | form {raw : String} (h : ∀ k : Key, raw = k.text → ¬k.WellFormed) : KeyFault keys (.key raw) (.invalidKey raw)
  | scope {k : Key} (form : k.WellFormed) (h : ¬keys.allows k.scope) :
      KeyFault keys (.key k.text) (.unknownScope k.scope)
  | name {k : Key} (form : k.WellFormed) (scope : keys.allows k.scope) (h : ¬keys.pattern.accepts k.name) :
      KeyFault keys (.key k.text) (.invalidKey k.text)

/-- the operands of a command are too few or too many, or the first of them is of the wrong type -/
inductive OperandsFault (config : Config) (kind : CommandKind) : List TokenKind → Check → SemanticError → Prop where
  | arity {operands : List TokenKind} (h : operands.length ≠ kind.operandType.count) :
      OperandsFault config kind operands .arity (.arity kind.spelling kind.operandType.wording operands.length)
  | number {token : TokenKind} {others : List TokenKind} (type : kind.operandType = .number)
      (h : ∀ text, token = .number text → Number.read text = none) :
      OperandsFault config kind (token :: others) .operand (.typeMismatch kind.spelling "a number" token.text)
  | value {token : TokenKind} {others : List TokenKind} (type : kind.operandType = .value)
      (number : ∀ text, token ≠ .number text) (ident : ∀ word, token ≠ .ident word) :
      OperandsFault config kind (token :: others) .operand
        (.typeMismatch kind.spelling "a number or enum token" token.text)
  | enum {word : String} {others : List TokenKind} (type : kind.operandType = .value)
      (h : ∀ literal, ¬config.Resolves word literal) :
      OperandsFault config kind (.ident word :: others) .operand (.unknownEnum word)

theorem OperandsFault.check {config : Config} {kind : CommandKind} {operands : List TokenKind} {check : Check}
    {e : SemanticError} (h : OperandsFault config kind operands check e) : check = .arity ∨ check = .operand := by
  cases h <;> simp

theorem OperandsFault.ne_unknownCommand {config : Config} {kind : CommandKind} {operands : List TokenKind}
    {check : Check} {e : SemanticError} (h : OperandsFault config kind operands check e) (command : String) :
    e ≠ .unknownCommand command := by
  cases h <;> simp

/-- something is wrong with a command, after whose words come these tokens -/
inductive CommandFault (config : Config) (keys : KeyRules) (kind : CommandKind) :
    List TokenKind → Check → SemanticError → Prop where
  | disabled {rest : List TokenKind} (other : kind ≠ .set) (off : kind ∉ config.enabledCommands) :
      CommandFault config keys kind rest .command (.unknownCommand kind.spelling)
  | keyless : CommandFault config keys kind [] .key (.arity kind.spelling "a key" 0)
  | key {token : TokenKind} {after : List TokenKind} {e : SemanticError} (fault : KeyFault keys token e) :
      CommandFault config keys kind (token :: after) .key e
  | operands {token : TokenKind} {after : List TokenKind} {check : Check} {e : SemanticError}
      (fault : OperandsFault config kind (kind.operandsAmong after) check e) :
      CommandFault config keys kind (token :: after) check e
  | setTo {token : TokenKind} {after : List TokenKind} (plain : kind = .set) (off : .set ∉ config.enabledCommands) :
      CommandFault config keys kind (token :: .keyword .to :: after) .plainSet
        (.unknownCommand (CommandKind.spelling .set))
  /-- without `to`, the key decides which command has to be enabled -/
  | set {k : Key} {after : List TokenKind} {inferred : CommandKind} (plain : kind = .set)
      (short : after.head? ≠ some (.keyword .to)) (accepted : keys.Accepts k) (infers : config.Infers k inferred)
      (off : inferred ∉ config.enabledCommands) :
      CommandFault config keys kind (.key k.text :: after) .plainSet (.unknownCommand inferred.spelling)

/-- something is wrong with a statement -/
inductive Fault (config : Config) (keys : KeyRules) (tokens : List TokenKind) : Check → SemanticError → Prop where
  | unrecognised (h : ∀ (kind : CommandKind) rest, ¬kind.Opens tokens rest) :
      Fault config keys tokens .command (.unknownCommand ((tokens.head?.map TokenKind.text).getD ""))
  | command {kind : CommandKind} {rest : List TokenKind} {check : Check} {e : SemanticError}
      (opens : kind.Opens tokens rest) (fault : CommandFault config keys kind rest check e) :
      Fault config keys tokens check e

/-! ## The analysis makes the checks -/

/-- a text that is not cut is told as a whole -/
theorem Key.split_error {raw : String} {e : KeyError} (h : Key.split raw = .error e) : e = .invalidFormat raw := by
  unfold Key.split at h
  split at h
  · split_ifs at h
    exact (Except.error.inj h).symm
  · exact (Except.error.inj h).symm

namespace CommandKind

variable {kind kind' : CommandKind} {tokens rest rest' : List TokenKind}

theorem opens_iff : kind.Opens tokens rest ↔ Dialect.commandKind tokens = .ok (kind, rest) := by
  rw [Dialect.commandKind_eq_ok]
  exact ⟨fun h => ⟨h.words, h.whole⟩, fun h => ⟨h.1, h.2⟩⟩

/-- tokens begin like one command at most -/
theorem Opens.unique (h : kind.Opens tokens rest) (h' : kind'.Opens tokens rest') : kind' = kind ∧ rest' = rest := by
  have heq := (opens_iff.1 h').symm.trans (opens_iff.1 h)
  exact Prod.mk.inj (Except.ok.inj heq)

end CommandKind

namespace Dialect

variable {config : Config} {keys : KeyRules} {kind : CommandKind} {tokens rest : List TokenKind} {e : SemanticError}

theorem ensureEnabled_eq_error : (ofRules config keys).ensureEnabled kind = .error e ↔
    kind ∉ config.enabledCommands ∧ e = .unknownCommand kind.spelling := by
  unfold ensureEnabled enabled ofRules
  split_ifs with h <;> simp_all [eq_comm]

theorem commandKind_eq_error : commandKind tokens = .error e ↔ (∀ (kind : CommandKind) rest, ¬kind.Opens tokens rest) ∧
    e = .unknownCommand ((tokens.head?.map TokenKind.text).getD "") := by
  simp only [CommandKind.opens_iff]
  unfold commandKind
  split <;> simp [eq_comm]

/-- what is wrong with a statement that begins like a command is wrong with that command -/
theorem fault_eq (opens : kind.Opens tokens rest) :
    Fault config keys tokens = CommandFault config keys kind rest := by
  funext check e
  refine propext ⟨fun h => ?_, .command opens⟩
  cases h with
  | unrecognised h => exact absurd opens (h kind rest)
  | command opens' fault =>
    obtain ⟨rfl, rfl⟩ := opens.unique opens'
    exact fault

/-! ### The key -/

theorem key_of_form {k : Key} (form : k.WellFormed) : (ofRules config keys).key (.key k.text) =
    if keys.allows k.scope then if keys.pattern.accepts k.name then .ok k else .error (.invalidKey k.text)
    else .error (.unknownScope k.scope) := by
  rw [key, ofRules, KeyRules.parse, Key.split_text form]
  split_ifs <;> simp_all

theorem key_of_no_form {raw : String} (h : ∀ k : Key, raw = k.text → ¬k.WellFormed) :
    (ofRules config keys).key (.key raw) = .error (.invalidKey raw) := by
  cases hsplit : Key.split raw with
  | error e =>
    obtain rfl := Key.split_error hsplit
    simp only [key, KeyRules.parse, hsplit]
  | ok k =>
    obtain ⟨hraw, form⟩ := Key.split_eq_ok.1 hsplit
    exact absurd form (h k hraw)

theorem key_eq_error {token : TokenKind} : (ofRules config keys).key token = .error e ↔ KeyFault keys token e := by
  constructor
  · intro h
    cases token with
    | key raw =>
      by_cases hraw : ∃ k : Key, raw = k.text ∧ k.WellFormed
      · obtain ⟨k, rfl, form⟩ := hraw
        rw [key_of_form form] at h
        split_ifs at h with hscope hname <;> cases h
        · exact .name form hscope hname
        · exact .scope form hscope
      · have hform : ∀ k : Key, raw = k.text → ¬k.WellFormed := fun k htext form => hraw ⟨k, htext, form⟩
        rw [key_of_no_form hform] at h
        cases h
        exact .form hform
    | keyword word | number text | ident word | terminator =>
      cases h
      exact .other (by simp)
  · intro h
    cases h with
    | other h =>
      cases token with
      | key raw => exact absurd rfl (h raw)
      | keyword word | number text | ident word | terminator => rfl
    | form h => exact key_of_no_form h
    | scope form h => rw [key_of_form form, if_neg h]
    | name form scope h => rw [key_of_form form, if_pos scope, if_neg h]

/-! ### The operands -/

theorem arityFault_iff {operands : List TokenKind} : OperandsFault config kind operands .arity e ↔
    operands.length ≠ kind.operandType.count ∧
      .arity kind.spelling kind.operandType.wording operands.length = e := by
  constructor
  · rintro ⟨h⟩
    exact ⟨h, rfl⟩
  · rintro ⟨h, rfl⟩
    exact .arity h

/-- a command with one operand: the operand itself is looked at when there is no other -/
theorem makes_single {α : Type} {x : Except SemanticError α} {operands : List TokenKind}
    (count : kind.operandType.count = 1)
    (several : operands.length ≠ 1 → x = .error (.arity kind.spelling kind.operandType.wording operands.length))
    (single : ∀ token, operands = [token] → ∀ e, x = .error e ↔ OperandsFault config kind [token] .operand e) :
    Check.Makes [.arity, .operand] (OperandsFault config kind operands) x := by
  by_cases h : operands.length = 1
  · refine Check.Makes.skip (fun e hfault => (arityFault_iff.1 hfault).1 (h.trans count.symm)) ?_
    obtain ⟨token, rfl⟩ := List.length_eq_one_iff.1 h
    exact Check.makes_singleton.2 (single token rfl)
  · have harity : operands.length ≠ kind.operandType.count := count ▸ h
    refine Check.Makes.stop (.arity harity) fun e => ?_
    rw [several h, arityFault_iff]
    simp [harity]

theorem amount_eq_error (type : kind.operandType = .number) {token : TokenKind} :
    amount kind [token] = .error e ↔ OperandsFault config kind [token] .operand e := by
  constructor
  · intro h
    unfold amount at h
    split at h
    · rename_i text heq
      obtain ⟨rfl, -⟩ := List.cons.inj heq
      split at h
      · cases h
      · rename_i unread
        cases h
        exact .number type fun text' htext => TokenKind.number.inj htext ▸ unread
    · rename_i other hne heq
      obtain ⟨rfl, -⟩ := List.cons.inj heq
      cases h
      exact .number type fun text htext => absurd htext (hne text)
    · rename_i hne
      exact absurd rfl (hne token)
  · rintro (_ | ⟨-, unread⟩ | ⟨htype, -, -⟩ | ⟨htype, -⟩)
    · cases token with
      | number text => simp only [amount, unread text rfl, TokenKind.text]
      | keyword word | key text | ident text | terminator => rfl
    all_goals
      rw [type] at htype
      cases htype

theorem amount_makes (type : kind.operandType = .number) (operands : List TokenKind) :
    Check.Makes [.arity, .operand] (OperandsFault config kind operands) (amount kind operands) := by
  refine makes_single (by rw [type]; rfl) (fun h => ?_) fun token heq e => ?_
  · unfold amount
    split <;> simp_all [OperandType.wording]
  · rw [heq, amount_eq_error type]

theorem value_eq_error (type : kind.operandType = .value) {token : TokenKind} :
    (ofRules config keys).value kind token = .error e ↔ OperandsFault config kind [token] .operand e := by
  constructor
  · intro h
    unfold value at h
    split at h
    · split at h <;> cases h
    · rename_i word
      cases hknown : (ofRules config keys).resolveEnum word with
      | some literal => simp [hknown] at h
      | none =>
        simp only [hknown] at h
        cases h
        refine .enum type fun literal hresolves => ?_
        rw [resolveEnum_eq_some.2 hresolves] at hknown
        cases hknown
    · rename_i hnumber hident
      cases h
      exact .value type hnumber hident
  · rintro (_ | ⟨htype, -⟩ | ⟨-, hnumber, hident⟩ | @⟨word, -, -, hunknown⟩)
    · rw [type] at htype
      cases htype
    · cases token with
      | number text => exact absurd rfl (hnumber text)
      | ident word => exact absurd rfl (hident word)
      | keyword word | key text | terminator => rfl
    · cases hknown : (ofRules config keys).resolveEnum word with
      | some literal => exact absurd (resolveEnum_eq_some.1 hknown) (hunknown literal)
      | none => simp only [value, hknown]

theorem singleValue_makes (type : kind.operandType = .value) (operands : List TokenKind) :
    Check.Makes [.arity, .operand] (OperandsFault config kind operands)
      ((ofRules config keys).singleValue kind operands) := by
  refine makes_single (by rw [type]; rfl) (fun h => ?_) fun token heq e => ?_
  · unfold singleValue
    split
    · simp at h
    · rw [type, OperandType.wording]
  · rw [heq, singleValue, value_eq_error type]

theorem ensureArity_makes (type : kind.operandType = .nothing) (operands : List TokenKind) :
    Check.Makes [.arity, .operand] (OperandsFault config kind operands)
      (ensureArity kind "no operands" operands 0) := by
  have hoperand : ∀ e, ¬OperandsFault config kind operands .operand e := by
    rintro e (_ | ⟨htype, -⟩ | ⟨htype, -, -⟩ | ⟨htype, -⟩) <;> rw [type] at htype <;> cases htype
  intro e
  rw [Check.first_cons, Check.first_cons, arityFault_iff, type]
  simp only [hoperand, Check.not_first_nil, and_false, or_false, ensureArity, OperandType.count, OperandType.wording]
  split_ifs with h <;> simp [h]

/-! ### The command as a whole -/

/-- the checks of the operands, and then what is left to check -/
theorem makes_operands {α β : Type} {x : Except SemanticError α} {f : α → Except SemanticError β} {token : TokenKind}
    {after : List TokenKind}
    (hx : Check.Makes [.arity, .operand] (OperandsFault config kind (kind.operandsAmong after)) x)
    (hf : ∀ a, Check.Makes [.plainSet] (CommandFault config keys kind (token :: after)) (f a)) :
    Check.Makes [.arity, .operand, .plainSet] (CommandFault config keys kind (token :: after)) (x >>= f) := by
  refine (hx.congr fun check hcheck e => ⟨.operands, fun hfault => ?_⟩).bind fun a _ => hf a
  cases hfault with
  | operands fault => exact fault
  | disabled | key | setTo | set => simp at hcheck

theorem setTo_iff {token : TokenKind} {after : List TokenKind} :
    CommandFault config keys .set (token :: .keyword .to :: after) .plainSet e ↔
      .set ∉ config.enabledCommands ∧ e = .unknownCommand (CommandKind.spelling .set) := by
  constructor
  · intro h
    cases h with
    | setTo plain off => exact ⟨off, rfl⟩
    | set plain short accepted infers off => exact absurd rfl short
    | operands fault => simpa using fault.check
  · rintro ⟨off, rfl⟩
    exact .setTo rfl off

theorem set_iff {k : Key} (accepted : keys.Accepts k) {after : List TokenKind}
    (short : after.head? ≠ some (.keyword .to)) :
    CommandFault config keys .set (.key k.text :: after) .plainSet e ↔
      (ofRules config keys).inferredKind k ∉ config.enabledCommands ∧
        e = .unknownCommand ((ofRules config keys).inferredKind k).spelling := by
  constructor
  · intro h
    -- another key with that text could infer something else, but keys that are accepted have texts of their own
    generalize hrest : TokenKind.key k.text :: after = rest at h
    cases h with
    | setTo plain off =>
      obtain ⟨-, rfl⟩ := List.cons.inj hrest
      exact absurd rfl short
    | @set k' after' inferred plain short' accepted' infers off =>
      obtain ⟨htext, -⟩ := List.cons.inj hrest
      obtain rfl := Key.eq_of_text_eq (TokenKind.key.inj htext) accepted'.wellFormed
      rw [inferredKind_eq.2 infers]
      exact ⟨off, rfl⟩
    | operands fault => simpa using fault.check
  · rintro ⟨off, rfl⟩
    exact .set rfl short accepted (inferredKind_eq.1 rfl) off

/-- only a plain `set` is checked last -/
theorem makes_plainSet {α : Type} (h : kind ≠ .set) (a : α) :
    Check.Makes [.plainSet] (CommandFault config keys kind rest) (.ok a) := by
  refine (Check.makes_ok a).skip fun e hfault => ?_
  cases hfault with
  | operands fault => simpa using OperandsFault.check fault
  | setTo plain off => exact h plain
  | set plain short accepted infers off => exact h plain

theorem operands_makes {k : Key} (accepted : keys.Accepts k) (after : List TokenKind) :
    Check.Makes [.arity, .operand, .plainSet] (CommandFault config keys kind (.key k.text :: after))
      ((ofRules config keys).operands kind k after) := by
  cases kind with
  | clear => exact makes_operands (ensureArity_makes rfl after) fun _ => makes_plainSet (by decide) _
  | inc => exact makes_operands (amount_makes rfl after) fun _ => makes_plainSet (by decide) _
  | dec => exact makes_operands (amount_makes rfl after) fun _ => makes_plainSet (by decide) _
  | listAppend => exact makes_operands (singleValue_makes rfl after) fun _ => makes_plainSet (by decide) _
  | setAppend => exact makes_operands (singleValue_makes rfl after) fun _ => makes_plainSet (by decide) _
  | set =>
    simp only [operands]
    -- the key is asked what it holds only when there is no `to`
    split
    · rename_i operands
      refine makes_operands (singleValue_makes rfl operands) fun operand => ?_
      refine Check.Makes.bind (Check.makes_singleton.2 fun e => ?_) fun _ _ => Check.makes_ok _
      rw [ensureEnabled_eq_error, setTo_iff]
    · rename_i hshort
      have hshort : after.head? ≠ some (.keyword .to) := fun h => by
        obtain ⟨operands, rfl⟩ := List.head?_eq_some_iff.1 h
        exact hshort operands rfl
      have hafter : CommandKind.operandsAmong .set after = after := by
        unfold CommandKind.operandsAmong
        split
        · exact absurd rfl hshort
        · rfl
      refine makes_operands (hafter.symm ▸ singleValue_makes rfl after) fun operand => ?_
      refine Check.Makes.bind (Check.makes_singleton.2 fun e => ?_) fun _ _ => Check.makes_ok _
      rw [ensureEnabled_eq_error, set_iff accepted hshort]

/-- a command that is recognised -/
theorem command_makes (opens : kind.Opens tokens rest) :
    Check.Makes [.command] (CommandFault config keys kind rest) ((ofRules config keys).command tokens) := by
  refine Check.makes_singleton.2 fun e => ?_
  have hfault : CommandFault config keys kind rest .command e ↔
      kind ≠ .set ∧ kind ∉ config.enabledCommands ∧ e = .unknownCommand kind.spelling := by
    constructor
    · intro h
      cases h with
      | disabled other off => exact ⟨other, off, rfl⟩
      | operands fault => simpa using fault.check
    · rintro ⟨other, off, rfl⟩
      exact .disabled other off
  rw [hfault, command, CommandKind.opens_iff.1 opens]
  by_cases hset : kind = .set
  · simp [hset, bind, Except.bind, pure, Except.pure]
  · simp only [bind, Except.bind, ne_eq, hset, not_false_eq_true, if_true, true_and]
    have henabled : (ofRules config keys).ensureEnabled kind = .error e ↔
        kind ∉ config.enabledCommands ∧ e = .unknownCommand kind.spelling := ensureEnabled_eq_error
    rw [← henabled]
    cases (ofRules config keys).ensureEnabled kind <;> simp [pure, Except.pure]

/-- what comes after the words of the command -/
theorem rest_makes (kind : CommandKind) (rest : List TokenKind) :
    Check.Makes [.key, .arity, .operand, .plainSet] (CommandFault config keys kind rest)
      (match rest with
        | [] => .error (.arity kind.spelling "a key" 0)
        | token :: after => do
          let k ← (ofRules config keys).key token
          (ofRules config keys).operands kind k after) := by
  cases rest with
  | nil =>
    refine Check.Makes.stop .keyless fun e => ⟨fun h => ?_, fun h => ?_⟩
    · cases h
      exact .keyless
    · cases h
      rfl
  | cons token after =>
    refine Check.Makes.bind (Check.makes_singleton.2 fun e => ?_) fun k hk => ?_
    · rw [key_eq_error]
      refine ⟨.key, fun hfault => ?_⟩
      cases hfault with
      | key fault => exact fault
      | operands fault => simpa using fault.check
    · obtain ⟨rfl, accepted⟩ := key_eq_ok.1 hk
      exact operands_makes accepted after

/-- the analysis makes all checks, in their order -/
theorem analyze_makes (tokens : List TokenKind) :
    Check.Makes Check.order (Fault config keys (tokens.filter (· ≠ .terminator)))
      ((ofRules config keys).analyze tokens) := by
  unfold analyze
  cases hkind : commandKind (tokens.filter (· ≠ .terminator)) with
  | error e =>
    have hcommand : ∀ e', (.error e : Except SemanticError (CommandKind × List TokenKind)) = .error e' ↔
        Fault config keys (tokens.filter (· ≠ .terminator)) .command e' := fun e' => by
      rw [← hkind, commandKind_eq_error]
      constructor
      · rintro ⟨h, rfl⟩
        exact .unrecognised h
      · intro hfault
        cases hfault with
        | unrecognised h => exact ⟨h, rfl⟩
        | command opens fault =>
          rw [CommandKind.opens_iff.1 opens] at hkind
          cases hkind
    rw [command, hkind]
    refine Check.Makes.stop ((hcommand e).1 rfl) fun e' => ?_
    rw [← hcommand e']
    simp [bind, Except.bind]
  | ok parts =>
    obtain ⟨kind, rest⟩ := parts
    have opens := CommandKind.opens_iff.2 hkind
    rw [fault_eq opens]
    refine (command_makes opens).bind fun parts hparts => ?_
    obtain rfl : (kind, rest) = parts := Except.ok.inj (hkind.symm.trans (command_eq_ok.1 hparts).1)
    exact rest_makes kind rest

/-- a plain `set` is an unknown command when nothing is wrong but that it is not enabled -/
theorem first_set : Check.First Check.order (CommandFault config keys .set rest) e ↔
    Check.First [.key, .arity, .operand] (CommandFault config keys .set rest) e ∨
      (∀ e', ¬Check.First [.key, .arity, .operand] (CommandFault config keys .set rest) e') ∧
        CommandFault config keys .set rest .plainSet e := by
  have hcommand : ∀ e', ¬CommandFault config keys .set rest .command e' := by
    intro e' h
    cases h with
    | disabled other off => exact other rfl
    | operands fault => simpa using fault.check
  rw [show Check.order = .command :: ([.key, .arity, .operand] ++ [.plainSet]) from rfl, Check.first_cons,
    Check.first_append, Check.first_singleton]
  simp [hcommand]

theorem ne_unknownCommand {command : String}
    (h : Check.First [.key, .arity, .operand] (CommandFault config keys kind rest) e) : e ≠ .unknownCommand command := by
  obtain ⟨before, check, after, hchecks, hfault, -⟩ := h
  have hcheck : check ∈ [Check.key, .arity, .operand] := hchecks ▸ by simp
  cases hfault with
  | disabled | setTo | set => simp at hcheck
  | keyless => simp
  | key fault => cases fault <;> simp
  | operands fault => exact fault.ne_unknownCommand command

theorem unknownCommand_of_plainSet (h : CommandFault config keys kind rest .plainSet e) :
    ∃ command, e = .unknownCommand command := by
  cases h with
  | setTo | set => exact ⟨_, rfl⟩
  | operands fault => simpa using fault.check

end Dialect

/-! ## Main result -/

/-- no key makes of the plain `set` a command that is enabled -/
def Config.NeverEnables (config : Config) (rest : List TokenKind) : Prop :=
  .set ∉ config.enabledCommands ∧ ((∃ key operands, rest = key :: .keyword .to :: operands) ∨
    .listAppend ∉ config.enabledCommands ∧ .setAppend ∉ config.enabledCommands)

/-- a plain `set` that no key enables has a fault -/
theorem Config.NeverEnables.exists_fault {config : Config} {keys : KeyRules} {rest : List TokenKind}
    (h : config.NeverEnables rest) : ∃ check ∈ Check.order, ∃ e, CommandFault config keys .set rest check e := by
  cases rest with
  | nil => exact ⟨.key, by decide, _, .keyless⟩
  | cons token after =>
    cases hkey : (Dialect.ofRules config keys).key token with
    | error e => exact ⟨.key, by decide, e, .key (Dialect.key_eq_error.1 hkey)⟩
    | ok k =>
      obtain ⟨rfl, accepted⟩ := Dialect.key_eq_ok.1 hkey
      by_cases hto : after.head? = some (.keyword .to)
      · obtain ⟨operands, rfl⟩ := List.head?_eq_some_iff.1 hto
        exact ⟨.plainSet, by decide, _, .setTo rfl h.1⟩
      · have hinfers : config.Infers k ((Dialect.ofRules config keys).inferredKind k) := Dialect.inferredKind_eq.1 rfl
        refine ⟨.plainSet, by decide, _, .set rfl hto accepted hinfers ?_⟩
        obtain ⟨key, operands, hrest⟩ | ⟨hlist, hset⟩ := h.2
        · obtain ⟨-, rfl⟩ := List.cons.inj hrest
          exact absurd rfl hto
        · unfold Dialect.inferredKind
          split
          · exact hlist
          · exact hset
          · exact h.1

/-- **The first fault is reported.** With the key rules of the configuration, the analysis fails with the fault that the
first check finds: of the command, which must be one and, if it is no plain `set`, be enabled; of the key; of the number
of operands; of the type of the operand; and of what a plain `set` turns out to be. So a command that is no plain `set`
and not enabled is unknown whatever else is wrong with it; and a plain `set` that no key enables fails, as an unknown
command when nothing else is wrong. -/
theorem the_first_fault_is_reported {config : Config} {d : Dialect} (h : Dialect.ofConfig config = .ok d) :
    config.keyRules = .ok d.keys ∧
    (∀ (tokens : List TokenKind) (e : SemanticError), d.analyze tokens = .error e ↔
      Check.First Check.order (Fault config d.keys (tokens.filter (· ≠ .terminator))) e) ∧
    (∀ (tokens rest : List TokenKind) (kind : CommandKind), kind.Opens (tokens.filter (· ≠ .terminator)) rest →
      kind ≠ .set → kind ∉ config.enabledCommands → d.analyze tokens = .error (.unknownCommand kind.spelling)) ∧
    ∀ tokens rest : List TokenKind, CommandKind.set.Opens (tokens.filter (· ≠ .terminator)) rest →
      config.NeverEnables rest → ∃ e, d.analyze tokens = .error e ∧ ((∃ command, e = .unknownCommand command) ↔
        ∀ check ∈ [Check.key, .arity, .operand], ∀ e', ¬Fault config d.keys (tokens.filter (· ≠ .terminator)) check e') := by
  obtain ⟨keys, hkeys, rfl⟩ := Dialect.ofConfig_eq_ok.1 h
  refine ⟨hkeys, fun tokens => Dialect.analyze_makes tokens, fun tokens rest kind opens hset off => ?_,
    fun tokens rest opens never => ?_⟩
  · refine (Dialect.analyze_makes tokens _).2 (Check.first_cons.2 (.inl ?_))
    exact .command opens (.disabled hset off)
  · rw [show (Dialect.ofRules config keys).keys = keys from rfl, Dialect.fault_eq opens, ← Check.not_exists_first]
    obtain ⟨e, hfirst⟩ : ∃ e, Check.First Check.order (CommandFault config keys .set rest) e :=
      Check.exists_first.2 never.exists_fault
    refine ⟨e, (Dialect.analyze_makes tokens e).2 (Dialect.fault_eq opens ▸ hfirst), ?_⟩
    obtain hfault | ⟨hnone, hplain⟩ := Dialect.first_set.1 hfirst
    · exact ⟨fun ⟨command, he⟩ => absurd he (Dialect.ne_unknownCommand hfault), fun h => absurd hfault (h e)⟩
    · exact ⟨fun _ => hnone, fun _ => Dialect.unknownCommand_of_plainSet hplain⟩

/-- nothing but increments is enabled -/
def incrementsOnly : Config := { Engine.sampleConfig with enabledCommands := [.inc] }

theorem ofConfig_incrementsOnly :
    Dialect.ofConfig incrementsOnly = .ok (.ofRules incrementsOnly Engine.sampleKeys) := by
  have hrules : incrementsOnly.keyRules = .ok Engine.sampleKeys := Engine.reachable_sample.inv.rules
  exact Dialect.ofConfig_eq_ok.2 ⟨_, hrules, rfl⟩

/-- of an increment with three faults the scope is told, of a decrement nothing; a `set` with `to`, which no key enables,
is right in all else -/
theorem three_faults_are_told_apart : ∃ d, Dialect.ofConfig incrementsOnly = .ok d ∧
    Check.First Check.order (Fault incrementsOnly d.keys [.keyword .inc, .key "prod:a", .ident "x", .ident "y"])
      (.unknownScope "prod") ∧
    d.analyze [.keyword .dec, .key "prod:a", .ident "x"] = .error (.unknownCommand "dec") ∧
    d.analyze [.keyword .set, .key "env:a", .keyword .to, .number "1"] = .error (.unknownCommand "set") ∧
    ∀ check ∈ [Check.key, .arity, .operand], ∀ e,
      ¬Fault incrementsOnly d.keys [.keyword .set, .key "env:a", .keyword .to, .number "1"] check e := by
  obtain ⟨-, hfirst, hother, hset⟩ := the_first_fault_is_reported ofConfig_incrementsOnly
  have hunknown : (Dialect.ofRules incrementsOnly Engine.sampleKeys).analyze
      [.keyword .set, .key "env:a", .keyword .to, .number "1"] = .error (.unknownCommand "set") := by decide +kernel
  obtain ⟨e, he, hright⟩ := hset [.keyword .set, .key "env:a", .keyword .to, .number "1"]
    [.key "env:a", .keyword .to, .number "1"] ⟨rfl, by decide⟩ ⟨by decide, .inl ⟨_, _, rfl⟩⟩
  refine ⟨_, ofConfig_incrementsOnly, (hfirst [.keyword .inc, .key "prod:a", .ident "x", .ident "y"] _).1 ?_, ?_,
    hunknown, hright.1 ⟨"set", ?_⟩⟩
  · decide +kernel
  · exact hother [.keyword .dec, .key "prod:a", .ident "x"] [.key "prod:a", .ident "x"] .dec ⟨rfl, by decide⟩
      (by decide) (by decide)
  · exact Except.error.inj (he.symm.trans hunknown)

/-- No key makes a command that is enabled of `set prod:a to 1`, or of any other `set`, and it is not refused as an
unknown command: the error tells that the scope is none of the allowed ones. -/
theorem disabled_set_shows_its_scope : ∃ d, Dialect.ofConfig incrementsOnly = .ok d ∧
    (∀ kind ∈ [CommandKind.set, .listAppend, .setAppend], kind ∉ incrementsOnly.enabledCommands) ∧
    d.analyze [.keyword .set, .key "prod:a", .keyword .to, .number "1"] = .error (.unknownScope "prod") := by
  refine ⟨_, ofConfig_incrementsOnly, by decide, by decide +kernel⟩

end ScopedStore
