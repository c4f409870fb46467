/-
What holds of every engine that can be reached.

`Engine.Inv` is kept by every action (`Effect.inv`), so it holds of every reachable engine (`Reachable.inv`): changes are
attributed to the user between two actions, the history is sound, and the key rules and the dialect are those of the
configuration. The configuration, which is consistent (`Reachable.consistent`), the key rules, the dialect and the ids of
savepoints never change, by one action (`Effect.settled`) or by many (`Inv.settled_run`).
-/
import ScopedStore.Proofs.Effect

namespace ScopedStore

theorem History.Sound.extend {h : History} (hs : h.Sound) {log : List Entry}
    (hn : log.map Entry.sequence = List.range' h.total log.length) : (h.extend log).Sound := by
  induction log generalizing h with
  | nil => exact hs
  | cons x log ih =>
    rw [List.map_cons, List.length_cons, List.range'_succ] at hn
    obtain ⟨hx, hn⟩ := List.cons.inj hn
    exact ih (hs.push hx) hn

/-! ## What never changes -/

namespace Savepoints

theorem createAutomatic_frame (s : Savepoints) (snapshot : Mapping) (time : Nat) :
    (s.createAutomatic snapshot time).2.policy = s.policy ∧ (s.createAutomatic snapshot time).2.ids = s.ids := by
  unfold createAutomatic
  split_ifs <;> exact ⟨rfl, rfl⟩

theorem remove_frame {s t : Savepoints} {id : String} {found : Savepoint} (h : s.remove id = some (found, t)) :
    s.get? id = some found ∧ t = { s with live := s.live.eraseP (·.info.id = id) } := by
  obtain ⟨found', hf, hr⟩ := Option.map_eq_some_iff.1 h
  obtain ⟨rfl, rfl⟩ := Prod.mk.inj hr
  exact ⟨hf, rfl⟩

end Savepoints

namespace Engine

/-- what no action changes: the configuration, what was made of it, and the sequence of ids -/
structure Settled (e e' : Engine) : Prop extends Store.Frame e.store e'.store where
  dialect : e'.dialect = e.dialect
  policy : e'.savepoints.policy = e.savepoints.policy
  ids : e'.savepoints.ids = e.savepoints.ids

theorem Settled.refl (e : Engine) : Settled e e := ⟨.refl e.store, rfl, rfl, rfl⟩

theorem Settled.trans {e e' e'' : Engine} (h : Settled e e') (h' : Settled e' e'') : Settled e e'' :=
  ⟨h.toFrame.trans h'.toFrame, h'.dialect.trans h.dialect, h'.policy.trans h.policy, h'.ids.trans h.ids⟩

theorem Effect.settled {e e' : Engine} {time : Nat} {a : Action} {r : Except StoreError Answer}
    (h : Effect e time a r e') : Settled e e' := by
  cases h with
  | recorded h => exact ⟨h.frame, rfl, rfl, rfl⟩
  | subscribed filter listener => exact ⟨⟨rfl, rfl, rfl⟩, rfl, rfl, rfl⟩
  | unsubscribed handle => exact ⟨⟨rfl, rfl, rfl⟩, rfl, rfl, rfl⟩
  | restored live n => exact ⟨⟨rfl, rfl, rfl⟩, rfl, rfl, rfl⟩
  | saved options => exact ⟨.refl e.store, rfl, rfl, rfl⟩
  | deleted removed =>
    obtain ⟨-, rfl⟩ := Savepoints.remove_frame removed
    exact ⟨.refl e.store, rfl, rfl, rfl⟩
  | ran made h =>
    rcases made with made | made
    · obtain ⟨-, rfl⟩ := Prod.mk.inj made
      exact ⟨h.frame, rfl, rfl, rfl⟩
    · have hc := Savepoints.createAutomatic_frame e.savepoints e.store.data time
      rw [← made] at hc
      exact ⟨h.frame, rfl, hc.1, hc.2⟩

/-! ## The invariant -/

/-- what holds between two actions -/
structure Inv (e : Engine) : Prop where
  user : e.store.source = .user
  sound : e.store.history.Sound
  rules : e.store.config.keyRules = .ok e.store.keys
  dialect : e.dialect = .ofRules e.store.config e.store.keys

/-- an engine is created empty, from a consistent configuration -/
theorem create_eq_ok {config : Config} {ids : Nat → String} {e : Engine} :
    create config ids = .ok e ↔ config.validate = .ok () ∧ ∃ keys, config.keyRules = .ok keys ∧
      e = ⟨{ config, keys, history := { cap := config.historyMaxEntries } },
        { policy := config.autoSavepoint, ids }, .ofRules config keys⟩ := by
  unfold create Store.create Dialect.ofConfig
  constructor
  · intro h
    cases hv : config.validate with
    | error error => rw [hv] at h; cases h
    | ok _ =>
      cases hk : config.keyRules with
      | error error => rw [hv, hk] at h; cases h
      | ok keys =>
        rw [hv, hk] at h
        exact ⟨rfl, keys, rfl, (Except.ok.inj h).symm⟩
  · rintro ⟨hv, keys, hk, rfl⟩
    rw [hv, hk]
    rfl

theorem inv_create {config : Config} {ids : Nat → String} {e : Engine} (h : create config ids = .ok e) : Inv e := by
  obtain ⟨-, keys, hk, rfl⟩ := create_eq_ok.1 h
  refine ⟨rfl, ⟨?_, by simp⟩, hk, rfl⟩
  cases config.historyMaxEntries with
  | none => rfl
  | some n => exact List.take_nil

theorem Tracks.sound {P : Entry → Prop} {s t : Store} (h : Store.Tracks P s t) (hs : s.history.Sound) :
    t.history.Sound := by
  obtain ⟨log, hl, -⟩ := h
  rw [hl.accounts.history]
  exact hs.extend hl.accounts.numbered

theorem Effect.inv {e e' : Engine} {time : Nat} {a : Action} {r : Except StoreError Answer} (hi : Inv e)
    (h : Effect e time a r e') : Inv e' := by
  have hs : e'.store.history.Sound := by
    cases h with
    | recorded h => exact Tracks.sound h hi.sound
    | subscribed filter listener => exact hi.sound
    | unsubscribed handle => exact hi.sound
    | restored live n => exact hi.sound.push rfl
    | saved options => exact hi.sound
    | deleted removed => exact hi.sound
    | ran made h => exact Tracks.sound h hi.sound
  have ht := h.settled
  exact ⟨ht.source.trans hi.user, hs, by rw [ht.config, ht.keys, hi.rules], by rw [ht.config, ht.keys, ht.dialect, hi.dialect]⟩

theorem Inv.perform {e : Engine} (hi : Inv e) (time : Nat) (a : Action) : Inv (e.perform time a).2 :=
  (perform_effect hi.user time a).inv hi

theorem Reachable.inv {e : Engine} (h : Reachable e) : Inv e := by
  induction h with
  | create h => exact inv_create h
  | perform _ time a ih => exact ih.perform time a

/-- the configuration of a reachable engine is consistent -/
theorem Reachable.consistent {e : Engine} (h : Reachable e) : e.store.config.validate = .ok () := by
  induction h with
  | create h =>
    obtain ⟨hvalid, keys, -, rfl⟩ := create_eq_ok.1 h
    exact hvalid
  | @perform e h time a ih =>
    rw [(perform_effect h.inv.user time a).settled.config]
    exact ih

/-! ## Runs -/

theorem run_nil (e : Engine) : e.run [] = e := rfl

theorem run_cons (e : Engine) (step : Nat × Action) (actions : List (Nat × Action)) :
    e.run (step :: actions) = Engine.run (e.perform step.1 step.2).2 actions := rfl

theorem run_append (e : Engine) (l l' : List (Nat × Action)) : e.run (l ++ l') = (e.run l).run l' := List.foldl_append

theorem run_concat (e : Engine) (actions : List (Nat × Action)) (step : Nat × Action) :
    e.run (actions ++ [step]) = ((e.run actions).perform step.1 step.2).2 := run_append e actions [step]

theorem Inv.run {e : Engine} (hi : Inv e) (actions : List (Nat × Action)) : Inv (e.run actions) := by
  induction actions generalizing e with
  | nil => exact hi
  | cons step actions ih =>
    rw [run_cons]
    exact ih (hi.perform step.1 step.2)

theorem Inv.settled_run {e : Engine} (hi : Inv e) (actions : List (Nat × Action)) : Settled e (e.run actions) := by
  induction actions generalizing e with
  | nil => exact .refl e
  | cons step actions ih =>
    rw [run_cons]
    exact (perform_effect hi.user step.1 step.2).settled.trans (ih (hi.perform step.1 step.2))

theorem Reachable.run {e : Engine} (h : Reachable e) (actions : List (Nat × Action)) : Reachable (e.run actions) := by
  induction actions generalizing e with
  | nil => exact h
  | cons step actions ih =>
    rw [run_cons]
    exact ih (h.perform step.1 step.2)

/-! ## An engine to try things on -/

/-- one scope, names of one letter, one enum token, and room for one automatic savepoint -/
def sampleConfig : Config where
  allowedScopes := .ofList ["env"]
  namePattern := "[a-z]"
  enumMap := (∅ : Std.ExtTreeMap String String).insert "on" "1"
  autoSavepoint := { enabled := true, maxCount := 1 }
  recordNoopClears := true

/-- the key rules of `sampleConfig` -/
def sampleKeys : KeyRules :=
  ⟨sampleConfig.allowedScopes, (NamePattern.compile sampleConfig.namePattern).getD ⟨"", .empty⟩⟩

/-- the engine that `sampleConfig` describes -/
def sample : Engine where
  store := { config := sampleConfig, keys := sampleKeys }
  savepoints := { policy := sampleConfig.autoSavepoint }
  dialect := .ofRules sampleConfig sampleKeys

theorem create_sampleConfig : create sampleConfig = .ok sample := by
  have hv : sampleConfig.validate = .ok () := by decide +kernel
  have hc : (NamePattern.compile sampleConfig.namePattern).isSome := by decide +kernel
  obtain ⟨p, hp⟩ := Option.isSome_iff_exists.1 hc
  refine create_eq_ok.2 ⟨hv, sampleKeys, ?_, rfl⟩
  rw [Config.keyRules, Config.compilePattern, sampleKeys, hp]
  rfl

theorem reachable_sample : Reachable sample := .create create_sampleConfig

end Engine
end ScopedStore
