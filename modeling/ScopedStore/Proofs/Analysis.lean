/-
What the analysis of a statement lets through.

`analyze_eq_ok`: a list of tokens is a command exactly when it consists of the words of a command, a key that is
accepted, and tokens that complete the command (`Completes`), and the command is enabled. This covers the plain `set`,
whose kind is only settled, and held against the enabled commands, when its key and its operand are known.
`admits_of_analyze`: so a command that is let through is enabled, is on an accepted key that one of the tokens writes,
and has no operand but one that a token writes, as a number or as an enum token. `resolveEnum_eq_some`: which literal
an enum token stands for.
-/
import ScopedStore.Proofs.KeyRules
import ScopedStore.Proofs.NumberLiteral
import ScopedStore.Proofs.Result
import ScopedStore.Proofs.Tables
import ScopedStore.Script.Command

namespace ScopedStore

open Script (TokenKind)

namespace Dialect

variable {d : Dialect} {tokens : List TokenKind} {kind : CommandKind} {k : Key} {c : Command}

/-- one of the tokens writes the operand -/
inductive Writes (d : Dialect) (tokens : List TokenKind) : Operand → Prop where
  | number {text : String} {n : Number} (token : .number text ∈ tokens) (read : Number.read text = some n) :
      Writes d tokens (.number n)
  /-- a number that no number type holds is kept as it is written -/
  | verbatim {text : String} (token : .number text ∈ tokens) (unread : Number.read text = none) :
      Writes d tokens (.literal text)
  | enum {word literal : String} (token : .ident word ∈ tokens) (known : d.resolveEnum word = some literal) :
      Writes d tokens (.literal literal)

/-- the command is enabled, and takes its key and its operand from the tokens -/
structure Admits (d : Dialect) (tokens : List TokenKind) (c : Command) : Prop where
  enabled : d.enabled c.kind
  key : .key c.key.text ∈ tokens
  accepted : d.keys.Accepts c.key
  operand : ∀ operand, c.operand = some operand → d.Writes tokens operand

theorem Writes.mono {operand : Operand} {tokens' : List TokenKind} (h : d.Writes tokens operand)
    (hs : tokens ⊆ tokens') : d.Writes tokens' operand := by
  cases h with
  | number token read => exact .number (hs token) read
  | verbatim token unread => exact .verbatim (hs token) unread
  | enum token known => exact .enum (hs token) known

/-! ## Commands and keys -/

/-- the words that name a command -/
def words : CommandKind → List Script.Keyword
  | .set => [.set]
  | .inc => [.inc]
  | .dec => [.dec]
  | .clear => [.clear]
  | .listAppend => [.list, .append]
  | .setAppend => [.set, .append]

theorem ensureEnabled_eq_ok {u : Unit} : d.ensureEnabled kind = .ok u ↔ d.enabled kind := by
  unfold ensureEnabled
  split_ifs with h <;> simp [h]

/-- `set append` is one command, so a plain `set` is not followed by `append` -/
theorem commandKind_eq_ok {rest : List TokenKind} :
    commandKind tokens = .ok (kind, rest) ↔
      tokens = (words kind).map .keyword ++ rest ∧ (kind = .set → rest.head? ≠ some (.keyword .append)) := by
  constructor
  · intro h
    unfold commandKind at h
    split at h <;> cases h
    case h_3 tokens hne =>
      refine ⟨rfl, fun _ hhead => ?_⟩
      obtain ⟨after, rfl⟩ : ∃ after, rest = .keyword .append :: after := List.head?_eq_some_iff.1 hhead
      exact hne after rfl
    all_goals exact ⟨rfl, by simp⟩
  · rintro ⟨rfl, hset⟩
    cases kind with
    | set =>
      have hne := hset rfl
      simp only [words, List.map_cons, List.map_nil, List.singleton_append]
      unfold commandKind
      split <;> simp_all
    | inc => rfl
    | dec => rfl
    | clear => rfl
    | listAppend => rfl
    | setAppend => rfl

theorem command_eq_ok {rest : List TokenKind} :
    d.command tokens = .ok (kind, rest) ↔
      commandKind tokens = .ok (kind, rest) ∧ (kind ≠ .set → d.enabled kind) := by
  unfold command
  rw [Result.bind_eq_ok]
  constructor
  · rintro ⟨⟨kind', rest'⟩, hc, h⟩
    simp only at h
    split_ifs at h with hk
    · obtain ⟨u, he, h⟩ := Result.bind_eq_ok.1 h
      obtain ⟨rfl, rfl⟩ := Prod.mk.inj (Except.ok.inj h)
      exact ⟨hc, fun _ => ensureEnabled_eq_ok.1 he⟩
    · obtain ⟨rfl, rfl⟩ := Prod.mk.inj (Except.ok.inj h)
      exact ⟨hc, fun hn => absurd hn hk⟩
  · rintro ⟨hc, he⟩
    refine ⟨(kind, rest), hc, ?_⟩
    simp only
    split_ifs with hk
    · exact Result.bind_eq_ok.2 ⟨(), ensureEnabled_eq_ok.2 (he hk), rfl⟩
    · rfl

theorem key_eq_ok {token : TokenKind} : d.key token = .ok k ↔ token = .key k.text ∧ d.keys.Accepts k := by
  constructor
  · intro h
    unfold key at h
    split at h
    · split at h
      · rename_i k' hk
        obtain rfl := Except.ok.inj h
        obtain ⟨rfl, ha⟩ := KeyRules.parse_eq_ok.1 hk
        exact ⟨rfl, ha⟩
      · cases h
      · cases h
    · cases h
  · rintro ⟨rfl, ha⟩
    simp only [key, KeyRules.parse_eq_ok.2 ⟨rfl, ha⟩]

/-! ## Operands -/

theorem value_eq_ok {token : TokenKind} {operand : Operand} :
    d.value kind token = .ok operand ↔ d.Writes [token] operand := by
  constructor
  · intro h
    unfold value at h
    split at h
    · split at h
      · rename_i n hn
        obtain rfl := Except.ok.inj h
        exact .number List.mem_cons_self hn
      · rename_i hn
        obtain rfl := Except.ok.inj h
        exact .verbatim List.mem_cons_self hn
    · split at h
      · rename_i literal hl
        obtain rfl := Except.ok.inj h
        exact .enum List.mem_cons_self hl
      · cases h
    · cases h
  · rintro (⟨token, read⟩ | ⟨token, unread⟩ | ⟨token, known⟩)
    · obtain rfl := List.mem_singleton.1 token
      simp only [value, read]
    · obtain rfl := List.mem_singleton.1 token
      simp only [value, unread]
    · obtain rfl := List.mem_singleton.1 token
      simp only [value, known]

theorem singleValue_eq_ok {operand : Operand} :
    d.singleValue kind tokens = .ok operand ↔ ∃ token, tokens = [token] ∧ d.Writes [token] operand := by
  unfold singleValue
  split
  · simp [value_eq_ok]
  · rename_i hne
    simp only [reduceCtorEq, false_iff]
    rintro ⟨token, rfl, -⟩
    exact hne token rfl

theorem amount_eq_ok {n : Number} :
    amount kind tokens = .ok n ↔ ∃ text, tokens = [.number text] ∧ Number.read text = some n := by
  constructor
  · intro h
    unfold amount at h
    split at h
    · split at h
      · rename_i hn
        exact ⟨_, rfl, Except.ok.inj h ▸ hn⟩
      · cases h
    · cases h
    · cases h
  · rintro ⟨text, rfl, hn⟩
    simp only [amount, hn]

/-- the tokens after the key `k` complete the command that the first words name -/
inductive Completes (d : Dialect) (k : Key) : CommandKind → List TokenKind → Command → Prop where
  | clear : Completes d k .clear [] ⟨.clear, k, none⟩
  | inc {text : String} {n : Number} (read : Number.read text = some n) :
      Completes d k .inc [.number text] ⟨.inc, k, some (.number n)⟩
  | dec {text : String} {n : Number} (read : Number.read text = some n) :
      Completes d k .dec [.number text] ⟨.dec, k, some (.number n)⟩
  | listAppend {token : TokenKind} {operand : Operand} (value : d.Writes [token] operand) :
      Completes d k .listAppend [token] ⟨.listAppend, k, some operand⟩
  | setAppend {token : TokenKind} {operand : Operand} (value : d.Writes [token] operand) :
      Completes d k .setAppend [token] ⟨.setAppend, k, some operand⟩
  | setTo {token : TokenKind} {operand : Operand} (value : d.Writes [token] operand) :
      Completes d k .set [.keyword .to, token] ⟨.set, k, some operand⟩
  /-- without `to`, the key decides what is done -/
  | set {token : TokenKind} {operand : Operand} (value : d.Writes [token] operand) :
      Completes d k .set [token] ⟨d.inferredKind k, k, some operand⟩

theorem not_writes_keyword {word : Script.Keyword} {operand : Operand} : ¬d.Writes [.keyword word] operand := by
  rintro (⟨token, -⟩ | ⟨token, -⟩ | ⟨token, -⟩) <;> cases List.mem_singleton.1 token

theorem Completes.key (h : d.Completes k kind tokens c) : c.key = k := by cases h <;> rfl

/-- only a plain `set` can turn into something else -/
theorem Completes.kind_of_ne_set (h : d.Completes k kind tokens c) (hk : kind ≠ .set) : c.kind = kind := by
  cases h with
  | setTo value => exact absurd rfl hk
  | set value => exact absurd rfl hk
  | clear => rfl
  | inc read => rfl
  | dec read => rfl
  | listAppend value => rfl
  | setAppend value => rfl

theorem Completes.writes (h : d.Completes k kind tokens c) {operand : Operand} (ho : c.operand = some operand) :
    d.Writes tokens operand := by
  cases h with
  | clear => cases ho
  | inc read => exact Option.some.inj ho ▸ .number List.mem_cons_self read
  | dec read => exact Option.some.inj ho ▸ .number List.mem_cons_self read
  | listAppend value => exact Option.some.inj ho ▸ value
  | setAppend value => exact Option.some.inj ho ▸ value
  | setTo value => exact Option.some.inj ho ▸ value.mono (List.subset_cons_self _ _)
  | set value => exact Option.some.inj ho ▸ value

/-- a plain `set` is checked at its end, under the kind that its key gives it -/
theorem set_eq_ok : d.operands .set k tokens = .ok c ↔ d.Completes k .set tokens c ∧ d.enabled c.kind := by
  constructor
  · intro h
    simp only [operands] at h
    split at h
    · obtain ⟨operand, hv, h⟩ := Result.bind_eq_ok.1 h
      obtain ⟨u, hs, h⟩ := Result.bind_eq_ok.1 h
      obtain rfl := Except.ok.inj h
      obtain ⟨token, rfl, hw⟩ := singleValue_eq_ok.1 hv
      exact ⟨.setTo hw, ensureEnabled_eq_ok.1 hs⟩
    · obtain ⟨operand, hv, h⟩ := Result.bind_eq_ok.1 h
      obtain ⟨u, hs, h⟩ := Result.bind_eq_ok.1 h
      obtain rfl := Except.ok.inj h
      obtain ⟨token, rfl, hw⟩ := singleValue_eq_ok.1 hv
      exact ⟨.set hw, ensureEnabled_eq_ok.1 hs⟩
  · rintro ⟨h, he⟩
    cases h with
    | @setTo token operand value =>
      refine Result.bind_eq_ok.2 ⟨operand, singleValue_eq_ok.2 ⟨token, rfl, value⟩, ?_⟩
      exact Result.bind_eq_ok.2 ⟨(), ensureEnabled_eq_ok.2 he, rfl⟩
    | @set token operand value =>
      simp only [operands]
      split
      · rename_i heq
        obtain ⟨rfl, -⟩ := List.cons.inj heq
        exact absurd value not_writes_keyword
      · refine Result.bind_eq_ok.2 ⟨operand, singleValue_eq_ok.2 ⟨token, rfl, value⟩, ?_⟩
        exact Result.bind_eq_ok.2 ⟨(), ensureEnabled_eq_ok.2 he, rfl⟩

theorem ensureArity_zero_eq_ok {expected : String} {u : Unit} :
    ensureArity kind expected tokens 0 = .ok u ↔ tokens = [] := by
  unfold ensureArity
  split_ifs with h <;> simp_all

/-- the other commands are known to be enabled before their operands are looked at -/
theorem operands_eq_ok (hk : kind ≠ .set) : d.operands kind k tokens = .ok c ↔ d.Completes k kind tokens c := by
  constructor
  · intro h
    unfold operands at h
    split at h
    · obtain ⟨u, ha, h⟩ := Result.bind_eq_ok.1 h
      obtain rfl := Except.ok.inj h
      obtain rfl := ensureArity_zero_eq_ok.1 ha
      exact .clear
    · obtain ⟨n, hn, h⟩ := Result.bind_eq_ok.1 h
      obtain rfl := Except.ok.inj h
      obtain ⟨text, rfl, hr⟩ := amount_eq_ok.1 hn
      exact .inc hr
    · obtain ⟨n, hn, h⟩ := Result.bind_eq_ok.1 h
      obtain rfl := Except.ok.inj h
      obtain ⟨text, rfl, hr⟩ := amount_eq_ok.1 hn
      exact .dec hr
    · obtain ⟨operand, hv, h⟩ := Result.bind_eq_ok.1 h
      obtain rfl := Except.ok.inj h
      obtain ⟨token, rfl, hw⟩ := singleValue_eq_ok.1 hv
      exact .listAppend hw
    · obtain ⟨operand, hv, h⟩ := Result.bind_eq_ok.1 h
      obtain rfl := Except.ok.inj h
      obtain ⟨token, rfl, hw⟩ := singleValue_eq_ok.1 hv
      exact .setAppend hw
    · exact absurd rfl hk
  · intro h
    cases h with
    | clear => exact Result.bind_eq_ok.2 ⟨(), ensureArity_zero_eq_ok.2 rfl, rfl⟩
    | inc read => exact Result.bind_eq_ok.2 ⟨_, amount_eq_ok.2 ⟨_, rfl, read⟩, rfl⟩
    | dec read => exact Result.bind_eq_ok.2 ⟨_, amount_eq_ok.2 ⟨_, rfl, read⟩, rfl⟩
    | listAppend value => exact Result.bind_eq_ok.2 ⟨_, singleValue_eq_ok.2 ⟨_, rfl, value⟩, rfl⟩
    | setAppend value => exact Result.bind_eq_ok.2 ⟨_, singleValue_eq_ok.2 ⟨_, rfl, value⟩, rfl⟩
    | setTo value => exact absurd rfl hk
    | set value => exact absurd rfl hk

/-! ## Statements -/

/-- **The analysis admits what is written like a command and is enabled.** -/
theorem analyze_eq_ok : d.analyze tokens = .ok c ↔ ∃ kind k operands,
    tokens.filter (· ≠ .terminator) = (words kind).map .keyword ++ .key k.text :: operands ∧ d.keys.Accepts k ∧
      d.Completes k kind operands c ∧ d.enabled c.kind := by
  unfold analyze
  constructor
  · intro h
    obtain ⟨⟨kind, rest⟩, hcommand, h⟩ := Result.bind_eq_ok.1 h
    obtain ⟨hkind, henabled⟩ := command_eq_ok.1 hcommand
    obtain ⟨htokens, -⟩ := commandKind_eq_ok.1 hkind
    cases rest with
    | nil => cases h
    | cons token operands =>
      obtain ⟨k, hkey, hoperands⟩ := Result.bind_eq_ok.1 h
      obtain ⟨rfl, haccepts⟩ := key_eq_ok.1 hkey
      refine ⟨kind, k, operands, htokens, haccepts, ?_⟩
      by_cases hset : kind = .set
      · subst hset
        exact set_eq_ok.1 hoperands
      · have hcompletes := (operands_eq_ok hset).1 hoperands
        exact ⟨hcompletes, (hcompletes.kind_of_ne_set hset).symm ▸ henabled hset⟩
  · rintro ⟨kind, k, operands, htokens, haccepts, hcompletes, henabled⟩
    have hkind : commandKind (tokens.filter (· ≠ .terminator)) = .ok (kind, .key k.text :: operands) :=
      commandKind_eq_ok.2 ⟨htokens, by simp⟩
    refine Result.bind_eq_ok.2 ⟨(kind, .key k.text :: operands), command_eq_ok.2 ⟨hkind, fun hset => ?_⟩, ?_⟩
    · exact hcompletes.kind_of_ne_set hset ▸ henabled
    · refine Result.bind_eq_ok.2 ⟨k, key_eq_ok.2 ⟨rfl, haccepts⟩, ?_⟩
      by_cases hset : kind = .set
      · subst hset
        exact set_eq_ok.2 ⟨hcompletes, henabled⟩
      · exact (operands_eq_ok hset).2 hcompletes

/-- a command that the analysis admits is enabled, and takes its key and its operand from the tokens -/
theorem admits_of_analyze (h : d.analyze tokens = .ok c) : d.Admits tokens c := by
  obtain ⟨kind, k, operands, htokens, ha, hc, he⟩ := analyze_eq_ok.1 h
  have hsub : .key k.text :: operands ⊆ tokens := fun t ht =>
    (List.mem_filter.1 (htokens ▸ List.mem_append_right _ ht)).1
  obtain rfl := hc.key
  refine ⟨he, hsub List.mem_cons_self, ha, fun operand ho => (hc.writes ho).mono fun t ht => ?_⟩
  exact hsub (List.mem_cons_of_mem _ ht)

end Dialect

/-! ## Enum tokens -/

/-- the literal stands in the last entry of the enum map whose token is looked up like the word -/
def Config.Resolves (config : Config) (word literal : String) : Prop :=
  ∃ before token after, config.enumMap.toList = before ++ (token, literal) :: after ∧
    Dialect.foldToken config token = Dialect.foldToken config word ∧
      ∀ entry ∈ after, Dialect.foldToken config entry.1 ≠ Dialect.foldToken config word

namespace Dialect

variable {config : Config} {keys : KeyRules} {word literal : String}

/-- words are looked up in the table of the folded tokens -/
theorem resolveEnum_ofRules (config : Config) (keys : KeyRules) (word : String) :
    (ofRules config keys).resolveEnum word =
      (Table.fill (foldToken config ·.1) Prod.snd config.enumMap.toList)[foldToken config word]? := rfl

theorem resolveEnum_eq_some : (ofRules config keys).resolveEnum word = some literal ↔ config.Resolves word literal := by
  simp only [resolveEnum_ofRules, Table.getElem?_fill, Option.map_eq_some_iff, List.find?_eq_some_iff_append,
    decide_eq_true_eq, Bool.not_eq_true', decide_eq_false_iff_not]
  constructor
  · rintro ⟨⟨token, literal'⟩, ⟨htoken, after, before, hentries, hafter⟩, rfl⟩
    refine ⟨before.reverse, token, after.reverse, ?_, htoken, fun entry he => hafter entry (List.mem_reverse.1 he)⟩
    rw [← List.reverse_reverse config.enumMap.toList, hentries]
    simp
  · rintro ⟨before, token, after, hentries, htoken, hafter⟩
    refine ⟨(token, literal), ⟨htoken, after.reverse, before.reverse, ?_, fun entry he => ?_⟩, rfl⟩
    · simp [hentries]
    · exact hafter entry (List.mem_reverse.1 he)

/-- what is looked up among the folded tokens is a literal of the configuration -/
theorem literal_of_resolveEnum (h : (ofRules config keys).resolveEnum word = some literal) :
    ∃ token : String, config.enumMap[token]? = some literal := by
  obtain ⟨before, token, after, hentries, -⟩ := resolveEnum_eq_some.1 h
  exact ⟨token, Std.ExtTreeMap.mem_toList_iff_getElem?_eq_some.1 (hentries ▸ by simp)⟩

end Dialect
end ScopedStore
