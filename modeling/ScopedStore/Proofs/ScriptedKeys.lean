/-
Accepted keys can be written in scripts.

`CommandKind.statement` is the statement of a command on a key, with a number literal where the command takes an
operand. `Dialect.reads_statement`: where the text of the key is a key token, the statement is read as the words of
the command, that token and the operand, and analyzed as the command on that key.

Main result, `default_keys_can_be_scripted`: with the default name pattern, the text of every accepted key is such a
token, even if a part of it is spelled like a keyword. So there is no accepted key that scripts cannot reach.
-/
import ScopedStore.Proofs.DefaultNames
import ScopedStore.Proofs.Sentences
import ScopedStore.Proofs.Spelling

namespace ScopedStore

open Script (TokenKind Token IsToken)

namespace CommandKind

variable {k : Key} {n : String}

/-- the statement of the command on a key, with a number for its operand -/
def statement (k : Key) (n : String) (kind : CommandKind) : String :=
  kind.spelling ++ " " ++ k.text ++
    match kind with
    | .clear => ""
    | .set => " to " ++ n
    | _ => " " ++ n

/-- the tokens of the statement that stand behind the key -/
def operandTokens (n : String) : CommandKind → List TokenKind
  | .clear => []
  | .set => [.keyword .to, .number n]
  | _ => [.number n]

/-- the tokens of the statement -/
def tokens (kind : CommandKind) (k : Key) (n : String) : List TokenKind :=
  (Dialect.words kind).map .keyword ++ .key k.text :: kind.operandTokens n

/-- the number of the statement: as it is written, when no number type holds it -/
def operand (n : String) : CommandKind → Option Operand
  | .clear => none
  | _ => some ((Number.read n).elim (.literal n) .number)

theorem spell_tokens (kind : CommandKind) : Script.spell (kind.tokens k n) = kind.statement k n := by
  rw [← String.toList_inj]
  cases kind <;> simp [Script.spell, Script.spellChars, tokens, Dialect.words, operandTokens, statement, spelling,
    TokenKind.text, Script.Keyword.spelling, Text.join_cons_cons]

theorem eq_of_mem_operandTokens {kind : CommandKind} {token : TokenKind} (h : token ∈ kind.operandTokens n) :
    token = .keyword .to ∨ token = .number n := by
  cases kind <;> simp_all [operandTokens]

theorem writable_tokens (hk : IsToken k.text.toList (.key k.text)) (hn : Text.IsLiteral n.toList) (kind : CommandKind) :
    Script.Writable (kind.tokens k n) := by
  intro token ht
  rcases List.mem_append.1 ht with ht | ht
  · obtain ⟨word, -, rfl⟩ := List.mem_map.1 ht
    exact .keyword word
  · rcases List.mem_cons.1 ht with rfl | ht
    · exact hk
    · rcases eq_of_mem_operandTokens ht with rfl | rfl
      · exact .keyword .to
      · have hnumber := IsToken.number hn
        rwa [String.ofList_toList] at hnumber

/-- only an increment and a decrement have to know the number -/
def Suits (n : String) (kind : CommandKind) : Prop :=
  Text.IsLiteral n.toList ∧ (kind = .inc ∨ kind = .dec → (Number.read n).isSome)

theorem completes_operand {d : Dialect} {kind : CommandKind} (h : kind.Suits n) :
    d.Completes k kind (kind.operandTokens n) ⟨kind, k, kind.operand n⟩ := by
  have hvalue : d.Writes [.number n] ((Number.read n).elim (.literal n) .number) := by
    cases hr : Number.read n with
    | some x => exact .number List.mem_cons_self hr
    | none => exact .verbatim List.mem_cons_self hr
  cases kind with
  | clear => exact .clear
  | set => exact .setTo hvalue
  | inc =>
    obtain ⟨x, hx⟩ := Option.isSome_iff_exists.1 (h.2 (.inl rfl))
    simp only [operand, hx, Option.elim_some]
    exact .inc hx
  | dec =>
    obtain ⟨x, hx⟩ := Option.isSome_iff_exists.1 (h.2 (.inr rfl))
    simp only [operand, hx, Option.elim_some]
    exact .dec hx
  | listAppend => exact .listAppend hvalue
  | setAppend => exact .setAppend hvalue

end CommandKind

namespace Dialect

variable {d : Dialect} {k : Key} {kind : CommandKind} {n : String}

/-- the tokens of a statement on an accepted key are the command on that key -/
theorem analyze_tokens (ha : d.keys.Accepts k) (he : d.enabled kind) (hn : kind.Suits n) :
    d.analyze (kind.tokens k n) = .ok ⟨kind, k, kind.operand n⟩ := by
  refine analyze_eq_ok.2 ⟨kind, k, kind.operandTokens n, ?_, ha, CommandKind.completes_operand hn, he⟩
  refine List.filter_eq_self.2 fun token ht => decide_eq_true fun hterminator => ?_
  subst hterminator
  rcases List.mem_append.1 ht with ht | ht
  · obtain ⟨word, -, hword⟩ := List.mem_map.1 ht
    cases hword
  · rcases List.mem_cons.1 ht with hkey | ht
    · cases hkey
    · rcases CommandKind.eq_of_mem_operandTokens ht with h | h <;> cases h

/-- **A statement is read as it was written.** -/
theorem reads_statement (ht : IsToken k.text.toList (.key k.text)) (ha : d.keys.Accepts k) (he : d.enabled kind)
    (hn : kind.Suits n) :
    ∃ tokens, Script.lex (kind.statement k n) = [⟨0, 0, kind.statement k n, .ok tokens⟩] ∧
      tokens.map Token.kind = kind.tokens k n ∧
      d.analyze (tokens.map Token.kind) = .ok ⟨kind, k, kind.operand n⟩ := by
  have hne : kind.tokens k n ≠ [] := by simp [CommandKind.tokens]
  have hlex := Script.lex_spell (CommandKind.writable_tokens ht hn.1 kind) hne
  rw [CommandKind.spell_tokens] at hlex
  refine ⟨_, hlex, Script.kinds_placed 0 _, ?_⟩
  rw [Script.kinds_placed]
  exact analyze_tokens ha he hn

end Dialect

/-- **Every default key can be scripted.** In a consistent configuration with the default name pattern, the statement
of any enabled command on any accepted key is a single statement. It has the words of the command, the text of the key
as one key token and the operand for its tokens, and is the command on exactly that key. -/
theorem default_keys_can_be_scripted {config : Config} (hv : config.validate = .ok ())
    (hd : config.namePattern = defaultNamePattern) :
    ∃ d, Dialect.ofConfig config = .ok d ∧ ∀ raw k, d.keys.parse raw = .ok k → ∀ kind ∈ config.enabledCommands,
      ∀ n : String, Text.IsLiteral n.toList → (kind = .inc ∨ kind = .dec → (Number.read n).isSome) →
        ∃ tokens, Script.lex (kind.statement k n) = [⟨0, 0, kind.statement k n, .ok tokens⟩] ∧
          tokens.map Token.kind = (Dialect.words kind).map .keyword ++ .key k.text :: kind.operandTokens n ∧
          d.analyze (tokens.map Token.kind) = .ok ⟨kind, k, kind.operand n⟩ := by
  obtain ⟨rules, hr⟩ := Config.exists_keyRules hv
  refine ⟨.ofRules config rules, Dialect.ofConfig_eq_ok.2 ⟨rules, hr, rfl⟩, fun raw k hk kind he n hn hread => ?_⟩
  have ha : rules.Accepts k := (KeyRules.parse_eq_ok.1 hk).2
  exact Dialect.reads_statement (KeyRules.isToken_of_accepts hv hd hr ha) ha (List.contains_iff_mem.2 he) ⟨hn, hread⟩

/-- a scope that is spelled like a keyword -/
def keywordConfig : Config where
  allowedScopes := .ofList ["set"]

theorem keywords_can_be_keys : ∃ d tokens, Dialect.ofConfig keywordConfig = .ok d ∧
    Script.lex "set append set:to 7" = [⟨0, 0, "set append set:to 7", .ok tokens⟩] ∧
    tokens.map Token.kind = [.keyword .set, .keyword .append, .key "set:to", .number "7"] ∧
    d.analyze (tokens.map Token.kind) = .ok ⟨.setAppend, ⟨"set", "to"⟩, some (.number (.int 7))⟩ := by
  have hv : keywordConfig.validate = .ok () := by decide +kernel
  obtain ⟨d, hd, hall⟩ := default_keys_can_be_scripted hv rfl
  obtain ⟨rules, hr, rfl⟩ := Dialect.ofConfig_eq_ok.1 hd
  obtain ⟨hpattern, hscopes⟩ := Config.keyRules_eq_ok.1 hr
  have hname : Unicode.IsIdentifier "to".toList :=
    .mk (by decide +kernel) fun d hd => .inl (List.all_eq_true.1 (by decide +kernel) d hd)
  have haccepts : rules.Accepts ⟨"set", "to"⟩ :=
    ⟨⟨by decide, by decide⟩, by rw [KeyRules.allows, hscopes]; decide +kernel,
      (NamePattern.accepts_default hpattern "to").2 hname⟩
  have hparse : rules.parse "set:to" = .ok ⟨"set", "to"⟩ := KeyRules.parse_eq_ok.2 ⟨rfl, haccepts⟩
  have hliteral : Text.IsLiteral "7".toList := .plain (.whole ⟨by decide, List.all_eq_true.1 (by decide)⟩)
  obtain ⟨tokens, hlex, hkinds, hanalyze⟩ := hall "set:to" _ hparse .setAppend (by decide) "7" hliteral (by simp)
  exact ⟨_, tokens, hd, hlex, hkinds, hanalyze⟩

end ScopedStore
