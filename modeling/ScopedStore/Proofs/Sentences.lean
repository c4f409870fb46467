/-
The grammar of commands.

`Sentence` lists the seven forms that a command may have, with the command that each one writes: which words come
first, where the key stands, and what may stand for the operand (`Config.Value`). A plain `set` without `to` is what
the compound keys of the configuration make of it (`Config.Infers`).

Main result, `analysis_accepts_the_sentences`: the analysis succeeds on exactly the sentences whose command is
enabled, and gives that command.
-/
import ScopedStore.Proofs.Analysis
import ScopedStore.Proofs.Invariant

namespace ScopedStore

open Script (TokenKind)

/-- the command that adds an item to a list or to a set -/
def CompoundKind.append : CompoundKind → CommandKind
  | .list => .listAppend
  | .set => .setAppend

namespace Config

/-- what a token stands for as a value -/
inductive Value (config : Config) : TokenKind → Operand → Prop where
  | number {text : String} {n : Number} (read : Number.read text = some n) : Value config (.number text) (.number n)
  /-- no number type holds it, so it is kept as it is written -/
  | verbatim {text : String} (unread : Number.read text = none) : Value config (.number text) (.literal text)
  | enum {word literal : String} (known : config.Resolves word literal) : Value config (.ident word) (.literal literal)

/-- the command that a `set` without `to` is: an entry for the key itself goes before one for its scope -/
inductive Infers (config : Config) (k : Key) : CommandKind → Prop where
  | key {compound : CompoundKind} (own : config.compoundKeys[k.text]? = some compound) : Infers config k compound.append
  | scope {compound : CompoundKind} (own : config.compoundKeys[k.text]? = none)
      (whole : config.compoundKeys[k.scope ++ ":*"]? = some compound) : Infers config k compound.append
  | plain (own : config.compoundKeys[k.text]? = none) (whole : config.compoundKeys[k.scope ++ ":*"]? = none) :
      Infers config k .set

end Config

/-- the tokens write the command, whether it is enabled or not -/
inductive Sentence (config : Config) (keys : KeyRules) : List TokenKind → Command → Prop where
  | clear {k : Key} (accepted : keys.Accepts k) :
      Sentence config keys [.keyword .clear, .key k.text] ⟨.clear, k, none⟩
  | inc {k : Key} {text : String} {n : Number} (accepted : keys.Accepts k) (read : Number.read text = some n) :
      Sentence config keys [.keyword .inc, .key k.text, .number text] ⟨.inc, k, some (.number n)⟩
  | dec {k : Key} {text : String} {n : Number} (accepted : keys.Accepts k) (read : Number.read text = some n) :
      Sentence config keys [.keyword .dec, .key k.text, .number text] ⟨.dec, k, some (.number n)⟩
  | listAppend {k : Key} {token : TokenKind} {operand : Operand} (accepted : keys.Accepts k)
      (value : config.Value token operand) :
      Sentence config keys [.keyword .list, .keyword .append, .key k.text, token] ⟨.listAppend, k, some operand⟩
  | setAppend {k : Key} {token : TokenKind} {operand : Operand} (accepted : keys.Accepts k)
      (value : config.Value token operand) :
      Sentence config keys [.keyword .set, .keyword .append, .key k.text, token] ⟨.setAppend, k, some operand⟩
  | setTo {k : Key} {token : TokenKind} {operand : Operand} (accepted : keys.Accepts k)
      (value : config.Value token operand) :
      Sentence config keys [.keyword .set, .key k.text, .keyword .to, token] ⟨.set, k, some operand⟩
  | set {k : Key} {kind : CommandKind} {token : TokenKind} {operand : Operand} (accepted : keys.Accepts k)
      (value : config.Value token operand) (infers : config.Infers k kind) :
      Sentence config keys [.keyword .set, .key k.text, token] ⟨kind, k, some operand⟩

namespace Dialect

variable {config : Config} {keys : KeyRules}

theorem writes_iff_value {token : TokenKind} {operand : Operand} :
    (ofRules config keys).Writes [token] operand ↔ config.Value token operand := by
  constructor
  · rintro (⟨token, read⟩ | ⟨token, unread⟩ | ⟨token, known⟩)
    · exact List.mem_singleton.1 token ▸ .number read
    · exact List.mem_singleton.1 token ▸ .verbatim unread
    · exact List.mem_singleton.1 token ▸ .enum (resolveEnum_eq_some.1 known)
  · rintro (read | unread | known)
    · exact .number List.mem_cons_self read
    · exact .verbatim List.mem_cons_self unread
    · exact .enum List.mem_cons_self (resolveEnum_eq_some.2 known)

theorem inferredKind_eq {k : Key} {kind : CommandKind} :
    (ofRules config keys).inferredKind k = kind ↔ config.Infers k kind := by
  have hinfers : config.Infers k ((ofRules config keys).inferredKind k) := by
    unfold inferredKind Config.kindFor ofRules
    cases hown : config.compoundKeys[k.text]? with
    | some compound => cases compound <;> exact .key hown
    | none =>
      cases hwhole : config.compoundKeys[k.scope ++ ":*"]? with
      | some compound => cases compound <;> exact .scope hown hwhole
      | none => exact .plain hown hwhole
  constructor
  · exact fun h => h ▸ hinfers
  · intro h
    unfold inferredKind Config.kindFor ofRules
    cases h with
    | @key compound own => cases compound <;> simp [own, CompoundKind.append]
    | @scope compound own whole => cases compound <;> simp [own, whole, CompoundKind.append]
    | plain own whole => simp [own, whole]

/-- a sentence is the words of a command, an accepted key, and what completes the command -/
theorem sentence_iff {tokens : List TokenKind} {c : Command} :
    Sentence config keys tokens c ↔ ∃ kind k operands, tokens = (words kind).map .keyword ++ .key k.text :: operands ∧
      keys.Accepts k ∧ (ofRules config keys).Completes k kind operands c := by
  constructor
  · intro h
    cases h with
    | clear accepted => exact ⟨.clear, _, _, rfl, accepted, .clear⟩
    | inc accepted read => exact ⟨.inc, _, _, rfl, accepted, .inc read⟩
    | dec accepted read => exact ⟨.dec, _, _, rfl, accepted, .dec read⟩
    | listAppend accepted value => exact ⟨.listAppend, _, _, rfl, accepted, .listAppend (writes_iff_value.2 value)⟩
    | setAppend accepted value => exact ⟨.setAppend, _, _, rfl, accepted, .setAppend (writes_iff_value.2 value)⟩
    | setTo accepted value => exact ⟨.set, _, _, rfl, accepted, .setTo (writes_iff_value.2 value)⟩
    | @set k kind token operand accepted value infers =>
      have hkind : (ofRules config keys).inferredKind k = kind := inferredKind_eq.2 infers
      subst hkind
      exact ⟨.set, _, _, rfl, accepted, .set (writes_iff_value.2 value)⟩
  · rintro ⟨kind, k, operands, rfl, accepted, h⟩
    cases h with
    | clear => exact .clear accepted
    | inc read => exact .inc accepted read
    | dec read => exact .dec accepted read
    | listAppend value => exact .listAppend accepted (writes_iff_value.1 value)
    | setAppend value => exact .setAppend accepted (writes_iff_value.1 value)
    | setTo value => exact .setTo accepted (writes_iff_value.1 value)
    | set value => exact .set accepted (writes_iff_value.1 value) (inferredKind_eq.1 rfl)

theorem ofConfig_eq_ok {d : Dialect} :
    ofConfig config = .ok d ↔ ∃ keys, config.keyRules = .ok keys ∧ d = ofRules config keys := by
  unfold ofConfig
  rw [Result.map_eq_ok]
  exact exists_congr fun keys => and_congr_right fun _ => eq_comm

end Dialect

/-- **The analysis accepts exactly the grammar.** With the key rules of the configuration, and terminators left out, a
list of tokens is analyzed as a command exactly when it is a sentence that writes the command and the command is
enabled. -/
theorem analysis_accepts_the_sentences {config : Config} {d : Dialect} (h : Dialect.ofConfig config = .ok d) :
    config.keyRules = .ok d.keys ∧ ∀ (tokens : List TokenKind) (c : Command), d.analyze tokens = .ok c ↔
      Sentence config d.keys (tokens.filter (· ≠ .terminator)) c ∧ c.kind ∈ config.enabledCommands := by
  obtain ⟨keys, hkeys, rfl⟩ := Dialect.ofConfig_eq_ok.1 h
  refine ⟨hkeys, fun tokens c => ?_⟩
  rw [Dialect.analyze_eq_ok, ← List.contains_iff_mem]
  constructor
  · rintro ⟨kind, k, operands, htokens, haccepts, hcompletes, henabled⟩
    exact ⟨Dialect.sentence_iff.2 ⟨kind, k, operands, htokens, haccepts, hcompletes⟩, henabled⟩
  · rintro ⟨hsentence, henabled⟩
    obtain ⟨kind, k, operands, htokens, haccepts, hcompletes⟩ := Dialect.sentence_iff.1 hsentence
    exact ⟨kind, k, operands, htokens, haccepts, hcompletes, henabled⟩

/-- `env:a` holds a set and the other keys of its scope hold lists; items are never added to a set by name -/
def compoundConfig : Config :=
  { Engine.sampleConfig with
    compoundKeys := ((∅ : Std.ExtTreeMap String CompoundKind).insert "env:a" .set).insert "env:*" .list
    enabledCommands := [.set, .listAppend] }

/-- the same tokens add to a list or are refused, as the entry that is found has it; with `to` they replace the value -/
theorem compound_keys_decide : ∃ d, Dialect.ofConfig compoundConfig = .ok d ∧
    d.analyze [.keyword .set, .key "env:b", .ident "on", .terminator] =
        .ok ⟨.listAppend, ⟨"env", "b"⟩, some (.literal "1")⟩ ∧
      d.analyze [.keyword .set, .key "env:a", .keyword .to, .number "7"] =
          .ok ⟨.set, ⟨"env", "a"⟩, some (.number (.int 7))⟩ ∧
        (∀ c, d.analyze [.keyword .set, .key "env:a", .number "7"] ≠ .ok c) ∧
          Sentence compoundConfig d.keys [.keyword .set, .key "env:b", .ident "on"]
            ⟨.listAppend, ⟨"env", "b"⟩, some (.literal "1")⟩ := by
  have hrules : compoundConfig.keyRules = .ok Engine.sampleKeys := Engine.reachable_sample.inv.rules
  have h : Dialect.ofConfig compoundConfig = .ok (.ofRules compoundConfig Engine.sampleKeys) :=
    Dialect.ofConfig_eq_ok.2 ⟨_, hrules, rfl⟩
  have hlist : (Dialect.ofRules compoundConfig Engine.sampleKeys).analyze
      [.keyword .set, .key "env:b", .ident "on", .terminator] =
        .ok ⟨.listAppend, ⟨"env", "b"⟩, some (.literal "1")⟩ := by
    decide +kernel
  refine ⟨_, h, hlist, by decide +kernel, fun c hc => ?_, (((analysis_accepts_the_sentences h).2 _ _).1 hlist).1⟩
  have hrefused : (Dialect.ofRules compoundConfig Engine.sampleKeys).analyze
      [.keyword .set, .key "env:a", .number "7"] = .error (.unknownCommand "set append") := by decide +kernel
  rw [hrefused] at hc
  cases hc

end ScopedStore
