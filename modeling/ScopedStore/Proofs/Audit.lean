/-
The history as an audit trail.

`run_accounts`: a run of actions without a restore has a log that leads from the history and the mapping before to those
after, and every entry of it was recorded by one of the actions, under the source of that action. The history retains
this log, as far as its cap allows.

Main result, `history_tells_all`: from every reachable engine on, as long as nothing is dropped, the retained entries
replay to the mapping and tell the truth about prior values; a restore is one entry without a key, and starts anew from
the mapping of its savepoint.
-/
import ScopedStore.Proofs.Invariant

namespace ScopedStore

namespace Engine

open Store

/-- one of the actions recorded the entry, under its own source -/
def MadeIn (e : Engine) (actions : List (Nat × Action)) (x : Entry) : Prop :=
  ∃ before time a after, actions = before ++ (time, a) :: after ∧
    (e.run before).store.history.total ≤ x.sequence ∧
    x.sequence < ((e.run before).perform time a).2.store.history.total ∧ x.source = a.source

/-- the action goes back to no savepoint -/
def Action.Forward (a : Action) : Prop := ∀ id, a ≠ .restore id

/-- the retained entries from now on are made by the actions that come, and replay from `m` when none is dropped -/
def ReplaysFrom (m : Mapping) (e : Engine) : Prop :=
  ∀ actions : List (Nat × Action), (∀ step ∈ actions, step.2.Forward) →
    let after := (e.run actions).store
    let log := after.history.since e.store.history.total
    (∀ x ∈ log, MadeIn e actions x) ∧
      (log.length = after.history.total - e.store.history.total → m.replay log = after.data ∧ Truthful m log)

theorem Effect.accounts {e e' : Engine} {time : Nat} {a : Action} {r : Except StoreError Answer} (ha : a.Forward)
    (h : Effect e time a r e') : ∃ log, Accounts e.store log e'.store ∧ ∀ x ∈ log, x.source = a.source := by
  cases h with
  | recorded h => exact h.elim fun log h => ⟨log, h.1.accounts, h.2⟩
  | subscribed filter listener => exact ⟨[], .nil rfl rfl, by simp⟩
  | unsubscribed handle => exact ⟨[], .nil rfl rfl, by simp⟩
  | @restored id found live n => exact absurd rfl (ha id)
  | saved options => exact ⟨[], .nil rfl rfl, by simp⟩
  | deleted removed => exact ⟨[], .nil rfl rfl, by simp⟩
  | ran made h => exact h.elim fun log h => ⟨log, h.1.accounts, h.2⟩

theorem MadeIn.cons {e : Engine} {step : Nat × Action} {actions : List (Nat × Action)} {x : Entry}
    (h : MadeIn (e.perform step.1 step.2).2 actions x) : MadeIn e (step :: actions) x := by
  obtain ⟨before, time, a, after, rfl, hl, hu, hs⟩ := h
  exact ⟨step :: before, time, a, after, rfl, hl, hu, hs⟩

/-- **Runs are accounted for.** -/
theorem Inv.run_accounts {e : Engine} (hi : Inv e) {actions : List (Nat × Action)}
    (ha : ∀ step ∈ actions, step.2.Forward) :
    ∃ log, Accounts e.store log (e.run actions).store ∧ ∀ x ∈ log, MadeIn e actions x := by
  induction actions generalizing e with
  | nil => exact ⟨[], .nil rfl rfl, by simp⟩
  | cons step actions ih =>
    rw [run_cons]
    obtain ⟨l, hl, hs⟩ := (perform_effect hi.user step.1 step.2).accounts (ha step List.mem_cons_self)
    obtain ⟨l', hl', hs'⟩ := ih (hi.perform step.1 step.2) fun step' h => ha step' (List.mem_cons_of_mem step h)
    refine ⟨l ++ l', hl.append hl', fun x hx => ?_⟩
    rcases List.mem_append.1 hx with hx | hx
    · exact ⟨[], step.1, step.2, actions, rfl, hl.le_sequence hx, hl.sequence_lt hx, hs x hx⟩
    · exact (hs' x hx).cons

theorem Inv.replaysFrom {e : Engine} (hi : Inv e) : ReplaysFrom e.store.data e := by
  intro actions ha after log
  obtain ⟨all, hacc, hmade⟩ := hi.run_accounts ha
  have hlog : log = (History.keep e.store.history.cap all.reverse).reverse := by
    change after.history.since e.store.history.total = _
    rw [hacc.history, History.since_extend hi.sound fun x hx => hacc.le_sequence hx]
  refine ⟨fun x hx => hmade x ?_, fun hlen => ?_⟩
  · rw [hlog, List.mem_reverse] at hx
    exact List.mem_reverse.1 (History.mem_of_mem_keep hx)
  · -- none of the entries is dropped, so the retained ones are all there are
    have hfull : log = all := by
      rw [hacc.history, History.total_extend, Nat.add_sub_cancel_left, hlog, List.length_reverse] at hlen
      rw [hlog, History.keep_of_length (hlen.trans List.length_reverse.symm), List.reverse_reverse]
    exact hfull ▸ ⟨hacc.data.symm, hacc.truthful⟩

end Engine

open Engine

/-- **The history tells everything.** From a reachable engine on, over any actions but restores, the retained entries
were recorded by those actions, each under its source; and as long as none is dropped, replaying them gives the final
mapping, each prior value being what the replay holds just before. Going back to a live savepoint is recorded as one
entry without a key; from there on the same holds with the mapping of the savepoint. -/
theorem history_tells_all {e : Engine} (h : Reachable e) :
    ReplaysFrom e.store.data e ∧
      ∀ (time : Nat) (id : String) (found : Savepoint), e.savepoints.get? id = some found →
        ∃ n after, e.perform time (.restore id) = (.ok (.count n), after) ∧
          after.store.history = e.store.history.append ⟨.user, time⟩ ⟨.restore, none, none, none⟩ ∧
          after.store.data = found.snapshot ∧ ReplaysFrom found.snapshot after := by
  refine ⟨h.inv.replaysFrom, fun time id found hf => ?_⟩
  have hp := perform_restore hf time
  have hr := (h.inv.perform time (.restore id)).replaysFrom
  rw [hp] at hr
  refine ⟨_, _, hp, ?_, rfl, hr⟩
  change e.store.history.append ⟨e.store.source, time⟩ _ = _
  rw [h.inv.user]

/-- a change under each kind of source -/
def sampleActions : List (Nat × Action) :=
  [(1, .set (.text "env:a") "5"), (2, .importRaw [("env:b", "x")] .overwrite),
    (3, .runScript "inc env:a 2; clear env:c; inc env:b 1" .skipAndContinue)]

/-- the sample engine with a savepoint -/
def sampleSaved : Engine := (sample.perform 0 (.save {})).2

/-- the sample actions after a savepoint, and then the way back -/
theorem sample_history_tells_all :
    let after := sampleSaved.run sampleActions
    let log := after.store.history.since sampleSaved.store.history.total
    log = [⟨0, 1, .set, some ⟨"env", "a"⟩, none, some "5", .user⟩,
        ⟨1, 2, .imported, some ⟨"env", "b"⟩, none, some "x", .system⟩,
        ⟨2, 3, .increment, some ⟨"env", "a"⟩, some "5", some "7", .query⟩,
        ⟨3, 3, .clear, some ⟨"env", "c"⟩, none, none, .query⟩] ∧
      sampleSaved.store.data.replay log = after.store.data ∧ Truthful sampleSaved.store.data log ∧
      (∀ x ∈ log, MadeIn sampleSaved sampleActions x) ∧
      ∃ (found : Savepoint) (n : Nat) (back : Engine), after.perform 4 (.restore "#0") = (.ok (.count n), back) ∧
        back.store.history = after.store.history.append ⟨.user, 4⟩ ⟨.restore, none, none, none⟩ ∧
        back.store.data = found.snapshot ∧ ReplaysFrom found.snapshot back := by
  have hs : Reachable sampleSaved := reachable_sample.perform 0 (.save {})
  have hf : ((sampleSaved.run sampleActions).savepoints.get? "#0").isSome := by decide +kernel
  obtain ⟨found, hf⟩ := Option.isSome_iff_exists.1 hf
  have hforward : ∀ step ∈ sampleActions, step.2.Forward := by simp [sampleActions, Action.Forward]
  obtain ⟨hmade, hfull⟩ := (history_tells_all hs).1 sampleActions hforward
  obtain ⟨hdata, htruthful⟩ := hfull (by decide +kernel)
  obtain ⟨n, back, hback⟩ := (history_tells_all (hs.run sampleActions)).2 4 "#0" found hf
  exact ⟨by decide +kernel, hdata, htruthful, hmade, found, n, back, hback⟩

end ScopedStore
