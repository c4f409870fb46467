/-
What a script can do to a store.

`tracks_apply`: a command records nothing, or the one change that its kind makes of its operand (`Leaves`).
`isOperandText_of_writes`: an operand of a script is a number in its canonical text, a literal of the configuration, or a
whole number beyond the 64-bit range, copied from the script.

Main result, `scripts_are_confined`: whatever the text of a script, all that it records are such changes, of accepted
keys, by enabled commands, in the name of scripts; keys without an entry keep their values.
-/
import ScopedStore.Proofs.Analysis
import ScopedStore.Proofs.Invariant
import ScopedStore.Proofs.Lexing

namespace ScopedStore

/-- how the changes of a command are entered -/
def CommandKind.operation : CommandKind → Operation
  | .set => .set
  | .inc => .increment
  | .dec => .decrement
  | .clear => .clear
  | .listAppend => .listAppend
  | .setAppend => .setAppend

/-- a text that a script can bring in as an operand -/
inductive OperandText (config : Config) (script : String) : String → Prop where
  | number (n : Number) : OperandText config script n.render
  /-- digits that are too many for a 64-bit integer are copied from the script -/
  | verbatim {text : String} {i : Int} (digits : Number.isIntegerLiteral text) (value : Text.readInt text.toList = some i)
      (range : Number.OutOfRange i) (copied : text.toList <:+: script.toList) : OperandText config script text
  | enum {token literal : String} (known : config.enumMap[token]? = some literal) : OperandText config script literal

namespace Store

open Attempt

/-- what a command of that kind leaves at its key, where `prior` was before; `P` holds of the text of its operand -/
inductive Leaves (s : Store) (P : String → Prop) (prior : Option String) : CommandKind → Option String → Prop where
  | clear : Leaves s P prior .clear none
  | set {text : String} (operand : P text) : Leaves s P prior .set (some text)
  | inc (n : Number) : Leaves s P prior .inc (some n.render)
  | dec (n : Number) : Leaves s P prior .dec (some n.render)
  | listAppend {items : List String} {text raw : String} (operand : P text) (decoded : s.listOf prior = .ok items)
      (encoded : s.compound.encodeList (items ++ [text]) = .ok raw) : Leaves s P prior .listAppend (some raw)
  | setAppend {items : List String} {text raw : String} (operand : P text) (decoded : s.setOf prior = .ok items)
      (encoded : s.compound.encodeSet (items ++ [text]) = .ok raw) : Leaves s P prior .setAppend (some raw)

/-- the entry records what a command of that kind leaves at an accepted key, under the source of the store -/
structure Carries (s : Store) (P : String → Prop) (kind : CommandKind) (x : Entry) : Prop where
  source : x.source = s.source
  key : ∃ k, x.key = some k ∧ s.keys.Accepts k
  operation : x.operation = kind.operation
  leaves : Leaves s P x.prior kind x.new

theorem accepts_of_resolve {s : Store} {ref : KeyRef} {k : Key} (h : s.resolve ref = .ok k) : s.keys.Accepts k :=
  KeyRules.accepts_of_resolve (Result.mapError_eq_ok.1 h)

theorem addToText_eq_ok {raw text : String} {delta : Number} (h : addToText raw delta = .ok text) :
    ∃ n : Number, text = n.render := by
  unfold addToText at h
  split at h
  · split at h
    · exact ⟨_, (Except.ok.inj h).symm⟩
    · cases h
  · split_ifs at h

/-! ## Commands -/

section Commands

variable {s : Store} {P : String → Prop} {time : Nat} {k : KeyRef}

theorem tracks_set {text : String} (hp : P text) : Tracks (Carries s P .set) s (set time k text s).2 := by
  have hm : (set time k text s).2 = (revise time .set k (fun _ _ => .ok text) s).2 := map_state _ _ s
  rw [hm]
  refine tracks_revise fun k' raw hk hraw => ⟨rfl, ⟨k', rfl, accepts_of_resolve hk⟩, rfl, ?_⟩
  obtain rfl := Except.ok.inj hraw
  exact .set hp

theorem tracks_increment {n : Number} : Tracks (Carries s P .inc) s (increment time k n s).2 := by
  refine tracks_revise fun k' raw hk hraw => ⟨rfl, ⟨k', rfl, accepts_of_resolve hk⟩, rfl, ?_⟩
  obtain ⟨m, rfl⟩ := addToText_eq_ok (Result.mapError_eq_ok.1 hraw)
  exact .inc m

theorem tracks_decrement {n : Number} : Tracks (Carries s P .dec) s (decrement time k n s).2 := by
  unfold decrement
  cases n.neg? with
  | some delta =>
    refine tracks_revise fun k' raw hk hraw => ⟨rfl, ⟨k', rfl, accepts_of_resolve hk⟩, rfl, ?_⟩
    obtain ⟨m, rfl⟩ := addToText_eq_ok (Result.mapError_eq_ok.1 hraw)
    exact .dec m
  | none => exact .refl _ s

theorem tracks_listAppend {text : String} (hp : P text) :
    Tracks (Carries s P .listAppend) s (listAppend time k text s).2 := by
  refine tracks_revise fun k' raw hk hraw => ⟨rfl, ⟨k', rfl, accepts_of_resolve hk⟩, rfl, ?_⟩
  obtain ⟨items, hd, he⟩ := Result.bind_eq_ok.1 hraw
  exact .listAppend hp hd (Result.mapError_eq_ok.1 he)

theorem tracks_setAppend {text : String} (hp : P text) :
    Tracks (Carries s P .setAppend) s (setAppend time k text s).2 := by
  refine tracks_revise fun k' raw hk hraw => ⟨rfl, ⟨k', rfl, accepts_of_resolve hk⟩, rfl, ?_⟩
  obtain ⟨items, hd, he⟩ := Result.bind_eq_ok.1 hraw
  exact .setAppend hp hd (Result.mapError_eq_ok.1 he)

/-- **A command records one change or none.** -/
theorem tracks_apply {c : Command} (hp : ∀ operand, c.operand = some operand → P operand.text) :
    Tracks (Carries s P c.kind) s (apply time c s).2 := by
  obtain ⟨kind, key, operand⟩ := c
  unfold apply
  simp only
  -- what follows the operation only makes the value of its result
  split
  · refine (map_state (clear time (.key key)) _ s).symm ▸ tracks_clear fun k' prior hk => ?_
    exact ⟨rfl, ⟨k', rfl, accepts_of_resolve hk⟩, rfl, .clear⟩
  · exact (map_state (set time (.key key) _) _ s).symm ▸ tracks_set (hp _ rfl)
  · exact (map_state (increment time (.key key) _) _ s).symm ▸ tracks_increment
  · exact (map_state (decrement time (.key key) _) _ s).symm ▸ tracks_decrement
  · exact (map_state (listAppend time (.key key) _) _ s).symm ▸ tracks_listAppend (hp _ rfl)
  · exact (map_state (setAppend time (.key key) _) _ s).symm ▸ tracks_setAppend (hp _ rfl)
  · exact .refl _ s

end Commands

theorem Leaves.of_config {s t : Store} {P : String → Prop} {prior new : Option String} {kind : CommandKind}
    (hc : t.config = s.config) (h : Leaves t P prior kind new) : Leaves s P prior kind new := by
  have hn : t.compound = s.compound := congrArg Config.compoundNotation hc
  have hl : t.listOf prior = s.listOf prior := by
    unfold listOf
    rw [hn]
  have hs : t.setOf prior = s.setOf prior := by
    unfold setOf
    rw [hn]
  cases h with
  | clear => exact .clear
  | set operand => exact .set operand
  | inc n => exact .inc n
  | dec n => exact .dec n
  | listAppend operand decoded encoded => exact .listAppend operand (hl ▸ decoded) (hn ▸ encoded)
  | setAppend operand decoded encoded => exact .setAppend operand (hs ▸ decoded) (hn ▸ encoded)

/-- the entry is in the name of scripts, about an accepted key, and records what an enabled command leaves there -/
structure Confined (s : Store) (script : String) (x : Entry) : Prop where
  source : x.source = .query
  key : ∃ k, x.key = some k ∧ s.keys.Accepts k
  change : ∃ kind ∈ s.config.enabledCommands, x.operation = kind.operation ∧
    Leaves s (OperandText s.config script) x.prior kind x.new

/-- in a script, what a command of an enabled kind records is confined, whatever was recorded before it -/
theorem Carries.confined {s t : Store} {script : String} {kind : CommandKind} {x : Entry}
    (ht : Frame { s with source := .query } t) (hk : kind ∈ s.config.enabledCommands)
    (h : Carries t (OperandText s.config script) kind x) : Confined s script x where
  source := h.source.trans ht.source
  key := h.key.imp fun _ hx => ⟨hx.1, (show t.keys = s.keys from ht.keys) ▸ hx.2⟩
  change := ⟨kind, hk, h.operation, h.leaves.of_config ht.config⟩

end Store

/-! ## Scripts -/

namespace Dialect

/-- a statement of a script that has a command has tokens that admit it -/
theorem admits_of_prepare {d : Dialect} {script : String} {x : PreparedStatement}
    (hx : x ∈ (d.prepare script).statements) {c : Command} (hc : x.command = .ok c) :
    ∃ s ∈ Script.lex script, ∃ tokens, s.tokens = .ok tokens ∧ d.Admits (tokens.map Script.Token.kind) c := by
  obtain ⟨s, hs, rfl⟩ := List.mem_map.1 hx
  simp only [Script.Statement.command] at hc
  split at hc
  · rename_i tokens ht
    exact ⟨s, hs, tokens, ht, admits_of_analyze (Result.mapError_eq_ok.1 hc)⟩
  · cases hc

/-- the operands of a script are numbers, literals, or digits that it holds -/
theorem isOperandText_of_writes {config : Config} {keys : KeyRules} {script : String} {s : Script.Statement}
    (hs : s ∈ Script.lex script) {tokens : List Script.Token} (ht : s.tokens = .ok tokens) {operand : Operand}
    (h : (ofRules config keys).Writes (tokens.map Script.Token.kind) operand) :
    OperandText config script operand.text := by
  cases h with
  | number token read => exact .number _
  | verbatim token unread =>
    obtain ⟨hl, hcopied⟩ := Script.number_of_lex hs ht token
    obtain ⟨hdigits, i, hi, hrange⟩ := Number.read_of_isLiteral hl unread
    exact .verbatim hdigits hi hrange hcopied
  | enum token known =>
    obtain ⟨token, hliteral⟩ := literal_of_resolveEnum known
    exact .enum hliteral

end Dialect

namespace Engine

open Store

theorem Inv.tracks_statement {e : Engine} (hi : Inv e) {script : String} {x : PreparedStatement}
    (hx : x ∈ (e.prepare script).statements) {t : Store} (ht : Frame { e.store with source := .query } t) (time : Nat) :
    Tracks (Confined e.store script) t (t.applyStatement time x).2 := by
  cases hc : x.command with
  | error error =>
    rw [applyStatement_of_error hc]
    exact .refl _ t
  | ok c =>
    obtain ⟨s, hs, tokens, htokens, hadmits⟩ := Dialect.admits_of_prepare hx hc
    rw [hi.dialect] at hadmits
    have henabled : c.kind ∈ e.store.config.enabledCommands := List.contains_iff_mem.1 hadmits.enabled
    have hoperand : ∀ operand, c.operand = some operand → OperandText e.store.config script operand.text :=
      fun operand ho => Dialect.isOperandText_of_writes hs htokens (hadmits.operand operand ho)
    rw [state_applyStatement hc]
    exact (tracks_apply hoperand).mono fun _ h => h.confined ht henabled

/-- the script touches the store, and its savepoint the savepoints -/
theorem runScriptWith_eq (e : Engine) (time : Nat) (script : String) (policy : ErrorPolicy) :
    let made := e.autoSavepoint time (e.prepare script)
    let done := e.store.execute time (e.prepare script) policy
    e.runScriptWith time script policy =
      ({ done.1 with autoSavepoint := made.1 }, { e with savepoints := made.2.savepoints, store := done.2 }) := by
  unfold runScriptWith autoSavepoint
  simp only
  split_ifs <;> rfl

theorem store_runScriptWith (e : Engine) (time : Nat) (script : String) (policy : ErrorPolicy) :
    (e.runScriptWith time script policy).2.store = (e.store.execute time (e.prepare script) policy).2 := by
  rw [runScriptWith_eq]

theorem outcomes_runScriptWith (e : Engine) (time : Nat) (script : String) (policy : ErrorPolicy) :
    (e.runScriptWith time script policy).1.outcomes = (e.store.execute time (e.prepare script) policy).1.outcomes := by
  rw [runScriptWith_eq]

theorem Inv.tracks_runScript {e : Engine} (hi : Inv e) (time : Nat) (script : String) (policy : ErrorPolicy) :
    Tracks (Confined e.store script) e.store (e.runScriptWith time script policy).2.store := by
  rw [store_runScriptWith]
  exact tracks_execute (fun _ ht _ hx => hi.tracks_statement hx ht time) policy

end Engine

open Engine Store

/-- **Scripts are confined.** Whatever the text of a script and however it goes, the entries that it appends are in the
name of scripts, about accepted keys, by enabled commands; their new values are operand texts, canonical numbers, or
lists and sets with an operand text added, and there is none after a clear. These entries account for the mapping that
the script leaves, and a key without an entry keeps its value. -/
theorem scripts_are_confined {e : Engine} (h : Reachable e) (time : Nat) (script : String) (policy : ErrorPolicy) :
    ∃ log, Accounts e.store log (e.runScriptWith time script policy).2.store ∧
      (∀ x ∈ log, Confined e.store script x) ∧
      ∀ k : Key, (∀ x ∈ log, x.key ≠ some k) →
        (e.runScriptWith time script policy).2.store.data[k]? = e.store.data[k]? := by
  obtain ⟨log, htrail, hconfined⟩ := h.inv.tracks_runScript time script policy
  refine ⟨log, htrail.accounts, hconfined, fun k hk => ?_⟩
  rw [htrail.accounts.data]
  exact Mapping.getElem?_replay_of_untouched hk e.store.data

/-- more digits than a 64-bit integer has, a number, an enum token, a clear, and statements that are refused -/
def sampleText : String :=
  "set env:a 99999999999999999999; inc env:b 2; list append env:c on; set env:d off; inc root:b 1; clear env:b"

theorem sample_scripts_are_confined :
    let after := (sample.runScriptWith 1 sampleText .skipAndContinue).2.store
    after.history.entries = [⟨0, 1, .set, some ⟨"env", "a"⟩, none, some "99999999999999999999", .query⟩,
        ⟨1, 1, .increment, some ⟨"env", "b"⟩, none, some "2", .query⟩,
        ⟨2, 1, .listAppend, some ⟨"env", "c"⟩, none, some "1", .query⟩,
        ⟨3, 1, .clear, some ⟨"env", "b"⟩, some "2", none, .query⟩] ∧
      (∀ x ∈ after.history.entries, Confined sample.store sampleText x) ∧
      after.data[(⟨"env", "d"⟩ : Key)]? = sample.store.data[(⟨"env", "d"⟩ : Key)]? := by
  have hentries : (sample.runScriptWith 1 sampleText .skipAndContinue).2.store.history.entries =
      [⟨0, 1, .set, some ⟨"env", "a"⟩, none, some "99999999999999999999", .query⟩,
        ⟨1, 1, .increment, some ⟨"env", "b"⟩, none, some "2", .query⟩,
        ⟨2, 1, .listAppend, some ⟨"env", "c"⟩, none, some "1", .query⟩,
        ⟨3, 1, .clear, some ⟨"env", "b"⟩, some "2", none, .query⟩] := by decide +kernel
  obtain ⟨log, haccounts, hconfined, hkept⟩ := scripts_are_confined reachable_sample 1 sampleText .skipAndContinue
  have hlog : (sample.runScriptWith 1 sampleText .skipAndContinue).2.store.history.entries = log := by
    rw [haccounts.history, History.entries, History.newest_extend reachable_sample.inv.sound]
    exact (congrArg List.reverse (List.append_nil _)).trans (List.reverse_reverse log)
  refine ⟨hentries, hlog ▸ hconfined, hkept _ ?_⟩
  rw [← hlog, hentries]
  decide

end ScopedStore
