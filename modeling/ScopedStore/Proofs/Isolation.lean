/-
Savepoints are isolated from what happens after them.

`Savepoints.Numbered`: the ids of the live savepoints were given out, and no two of them are the same. This takes ids
that are pairwise distinct, which is a hypothesis on the sequence of ids. A live savepoint is never altered: an action
leaves it, drops it, or makes a new one (`Effect.live_cases`), and a manual one is dropped by its own deletion only
(`Effect.keeps_manual`).

Main result, `savepoints_are_isolated`: after any run, every live savepoint holds the mapping of the moment it was made,
and can be restored to it; ids that are not live are unknown.
-/
import Std.Data.String.ToNat
import ScopedStore.Proofs.Invariant

namespace ScopedStore

/-! ## Live savepoints -/

theorem SavepointInfo.numberedId_injective : Function.Injective numberedId := fun m n h =>
  Nat.repr_injective (by simpa [numberedId] using h)

namespace Savepoints

/-- the live ids were given out, each to a single savepoint -/
structure Numbered (s : Savepoints) : Prop where
  given : ∀ x ∈ s.live, ∃ n < s.created, x.info.id = s.ids n
  distinct : s.live.Pairwise fun x y => x.info.id ≠ y.info.id

theorem Numbered.of_sublist {s : Savepoints} (h : s.Numbered) {live : List Savepoint} (hl : live.Sublist s.live) :
    Numbered { s with live } :=
  ⟨fun x hx => h.given x (hl.subset hx), h.distinct.sublist hl⟩

/-- a new savepoint gets the id that no other has -/
theorem Numbered.append {s : Savepoints} (h : s.Numbered) (hids : Function.Injective s.ids) {x : Savepoint}
    (hx : x.info.id = s.ids s.created) : Numbered { s with live := s.live ++ [x], created := s.created + 1 } where
  given y hy := by
    rcases List.mem_append.1 hy with hy | hy
    · obtain ⟨n, hn, hid⟩ := h.given y hy
      exact ⟨n, Nat.lt_succ_of_lt hn, hid⟩
    · obtain rfl := List.mem_singleton.1 hy
      exact ⟨s.created, Nat.lt_succ_self _, hx⟩
  distinct := by
    refine List.pairwise_append.2 ⟨h.distinct, List.pairwise_singleton .., fun y hy z hz => ?_⟩
    obtain rfl := List.mem_singleton.1 hz
    obtain ⟨n, hn, hid⟩ := h.given y hy
    rw [hid, hx]
    exact fun he => Nat.ne_of_lt hn (hids he)

theorem Numbered.push {s : Savepoints} (h : s.Numbered) (hids : Function.Injective s.ids) (snapshot : Mapping)
    (kind : SavepointKind) (source : Source) (label : Option String) (metadata : Std.ExtTreeMap String String)
    (time : Nat) : (s.push snapshot kind source label metadata time).2.Numbered := h.append hids rfl

theorem Numbered.get?_of_mem {s : Savepoints} (h : s.Numbered) {x : Savepoint} (hx : x ∈ s.live) :
    s.get? x.info.id = some x := by
  unfold get?
  obtain ⟨before, after, hl⟩ := List.append_of_mem hx
  have hd := h.distinct
  rw [hl] at hd ⊢
  have hb : ∀ y ∈ before, y.info.id ≠ x.info.id := fun y hy =>
    (List.pairwise_append.1 hd).2.2 y hy x List.mem_cons_self
  rw [List.find?_append, List.find?_eq_none.2 (by simpa using hb), Option.none_or]
  simp

theorem get?_of_absent {s : Savepoints} {id : String} (h : ∀ x ∈ s.live, x.info.id ≠ id) : s.get? id = none :=
  List.find?_eq_none.2 (by simpa using h)

/-! ## Automatic savepoints -/

/-- one step of making room, as often as there are savepoints -/
theorem evictTo_spec (max : Nat) (live : List Savepoint) :
    (evictTo max live).Sublist live ∧ ∀ x ∈ live, ¬isAutomatic x → x ∈ evictTo max live := by
  unfold evictTo
  generalize List.range live.length = steps
  induction steps generalizing live with
  | nil => exact ⟨.refl live, fun x hx _ => hx⟩
  | cons n steps ih =>
    rw [List.foldl_cons]
    split
    · obtain ⟨hs, hm⟩ := ih (live.eraseP isAutomatic)
      refine ⟨hs.trans List.eraseP_sublist, fun x hx hk => hm x ((List.mem_eraseP_of_neg hk).2 hx) hk⟩
    · exact ih live

/-- either nothing is made, or some automatic savepoints give way to a new one -/
theorem createAutomatic_cases {s t : Savepoints} {snapshot : Mapping} {time : Nat} {id : Option String}
    (made : (id, t) = (none, s) ∨ (id, t) = s.createAutomatic snapshot time) :
    t = s ∨ ∃ live : List Savepoint, live.Sublist s.live ∧ (∀ x ∈ s.live, ¬isAutomatic x → x ∈ live) ∧
      id = some (s.ids s.created) ∧
      t = (push { s with live } snapshot .automatic .query (some automaticLabel) ∅ time).2 := by
  rcases made with made | made
  · exact .inl (Prod.mk.inj made).2
  · unfold createAutomatic at made
    split_ifs at made
    · exact .inl (Prod.mk.inj made).2
    · exact .inl (Prod.mk.inj made).2
    · obtain ⟨hs, hm⟩ := evictTo_spec s.policy.maxCount s.live
      obtain ⟨hid, ht⟩ := Prod.mk.inj made
      exact .inr ⟨_, hs, hm, hid, ht⟩

end Savepoints

namespace Engine

open Attempt Savepoints

/-! ## One action -/

/-- the action makes a savepoint: it answers its id, or reports it -/
inductive Creates : Action → Except StoreError Answer → SavepointInfo → Prop where
  | saved {options : SaveOptions} {id : String} {info : SavepointInfo} (kind : info.kind = .manual)
      (answered : id = info.id) : Creates (.save options) (.ok (.text id)) info
  | ran {script : String} {policy : ErrorPolicy} {report : ScriptReport} {info : SavepointInfo}
      (kind : info.kind = .automatic) (reported : report.autoSavepoint = some info.id) :
      Creates (.runScript script policy) (.ok (.report report)) info

variable {e e' : Engine} {time : Nat} {a : Action} {r : Except StoreError Answer}

theorem Effect.numbered (hids : Function.Injective e.savepoints.ids) (hn : e.savepoints.Numbered)
    (h : Effect e time a r e') : e'.savepoints.Numbered := by
  cases h with
  | recorded h => exact hn
  | subscribed filter listener => exact hn
  | unsubscribed handle => exact hn
  | restored live n => exact hn
  | saved options => exact hn.push hids ..
  | deleted removed =>
    obtain ⟨-, rfl⟩ := remove_frame removed
    exact hn.of_sublist List.eraseP_sublist
  | ran made h =>
    rcases createAutomatic_cases made with rfl | ⟨live, hl, -, -, rfl⟩
    · exact hn
    · exact (hn.of_sublist hl).push hids ..

/-- what is live after an action was live before, or holds the mapping from before the action -/
theorem Effect.live_cases (h : Effect e time a r e') {x : Savepoint} (hx : x ∈ e'.savepoints.live) :
    x ∈ e.savepoints.live ∨ Creates a r x.info ∧ x.snapshot = e.store.data ∧ x.info.keyCount = e.store.data.size := by
  cases h with
  | recorded h => exact .inl hx
  | subscribed filter listener => exact .inl hx
  | unsubscribed handle => exact .inl hx
  | restored live n => exact .inl hx
  | saved options =>
    rcases List.mem_append.1 hx with hx | hx
    · exact .inl hx
    · obtain rfl := List.mem_singleton.1 hx
      exact .inr ⟨.saved rfl rfl, rfl, rfl⟩
  | deleted removed =>
    obtain ⟨-, rfl⟩ := remove_frame removed
    exact .inl (List.mem_of_mem_eraseP hx)
  | ran made h =>
    rcases createAutomatic_cases made with rfl | ⟨live, hl, -, hid, rfl⟩
    · exact .inl hx
    · rcases List.mem_append.1 hx with hx | hx
      · exact .inl (hl.subset hx)
      · obtain rfl := List.mem_singleton.1 hx
        exact .inr ⟨.ran rfl hid, rfl, rfl⟩

theorem Effect.keeps_manual (h : Effect e time a r e') {x : Savepoint} (hx : x ∈ e.savepoints.live)
    (hk : x.info.kind = .manual) (ha : a ≠ .deleteSavepoint x.info.id) : x ∈ e'.savepoints.live := by
  cases h with
  | recorded h => exact hx
  | subscribed filter listener => exact hx
  | unsubscribed handle => exact hx
  | restored live n => exact hx
  | saved options => exact List.mem_append_left _ hx
  | deleted removed =>
    obtain ⟨-, rfl⟩ := remove_frame removed
    refine (List.mem_eraseP_of_neg ?_).2 hx
    simpa using fun he => ha (congrArg Action.deleteSavepoint he.symm)
  | ran made h =>
    rcases createAutomatic_cases made with rfl | ⟨live, -, hm, -, rfl⟩
    · exact hx
    · exact List.mem_append_left _ (hm x hx (by simp [isAutomatic, hk]))

/-! ## Runs -/

/-- one of the actions made the savepoint, which holds the mapping of that moment -/
def Made (e : Engine) (actions : List (Nat × Action)) (x : Savepoint) : Prop :=
  ∃ before time a after, actions = before ++ (time, a) :: after ∧
    Creates a ((e.run before).perform time a).1 x.info ∧ x.snapshot = (e.run before).store.data ∧
    x.info.keyCount = (e.run before).store.data.size

/-- going back to the savepoint succeeds at any time; the savepoints and all that is settled stay as they are, and keys
can be set as before -/
def Restorable (e : Engine) (x : Savepoint) : Prop :=
  ∀ time, ∃ n after, e.perform time (.restore x.info.id) = (.ok (.count n), after) ∧
    after.store.data = x.snapshot ∧ after.savepoints = e.savepoints ∧ Settled e after ∧
    ∀ k key raw later, e.store.resolve k = .ok key →
      ∃ changed, after.perform later (.set k raw) = (.ok .unit, changed) ∧
        changed.store.data = x.snapshot.insert key raw

theorem Inv.numbered_run (hi : Inv e) (hids : Function.Injective e.savepoints.ids) (hn : e.savepoints.Numbered)
    (actions : List (Nat × Action)) : (e.run actions).savepoints.Numbered := by
  induction actions generalizing e with
  | nil => exact hn
  | cons step actions ih =>
    rw [run_cons]
    have h := perform_effect hi.user step.1 step.2
    exact ih (hi.perform step.1 step.2) (h.settled.ids ▸ hids) (h.numbered hids hn)

/-- the ghost of each creation goes back along the run -/
theorem Inv.made_of_live (hi : Inv e) (hl : e.savepoints.live = []) (actions : List (Nat × Action)) {x : Savepoint}
    (hx : x ∈ (e.run actions).savepoints.live) : Made e actions x := by
  induction actions using List.reverseRecOn with
  | nil =>
    rw [run_nil, hl] at hx
    cases hx
  | append_singleton actions step ih =>
    rw [run_append] at hx
    rcases (perform_effect (hi.run actions).user step.1 step.2).live_cases hx with hx | ⟨hc, hs, hn⟩
    · obtain ⟨before, time, a, after, rfl, h⟩ := ih hx
      exact ⟨before, time, a, after ++ [step], by simp, h⟩
    · exact ⟨actions, step.1, step.2, [], rfl, hc, hs, hn⟩

theorem Inv.manual_run (hi : Inv e) {x : Savepoint} (hx : x ∈ e.savepoints.live) (hk : x.info.kind = .manual)
    {actions : List (Nat × Action)} (ha : ∀ step ∈ actions, step.2 ≠ .deleteSavepoint x.info.id) :
    x ∈ (e.run actions).savepoints.live := by
  induction actions generalizing e with
  | nil => exact hx
  | cons step actions ih =>
    rw [run_cons]
    have h := perform_effect hi.user step.1 step.2
    exact ih (hi.perform step.1 step.2) (h.keeps_manual hx hk (ha step List.mem_cons_self))
      fun step' hs => ha step' (List.mem_cons_of_mem step hs)

theorem perform_set {k : KeyRef} {key : Key} (h : e.store.resolve k = .ok key) (time : Nat) (raw : String) :
    e.perform time (.set k raw) = (.ok .unit, { e with store := e.store.write time .set key raw }) := by
  refine map_eq_ok.2 ⟨(), onStore_eq.2 ⟨_, bind_eq_ok.2 ⟨raw, _, ?_, pure_eq.2 ⟨rfl, rfl⟩⟩, rfl⟩, rfl⟩
  refine bind_eq_ok.2 ⟨key, _, look_eq.2 ⟨h, rfl⟩, bind_eq_ok.2 ⟨raw, _, look_eq.2 ⟨rfl, rfl⟩, ?_⟩⟩
  exact bind_eq_ok.2 ⟨(), _, change_eq.2 ⟨rfl, rfl⟩, pure_eq.2 ⟨rfl, rfl⟩⟩

theorem restorable_of_live {x : Savepoint} (h : e.savepoints.get? x.info.id = some x) : Restorable e x := by
  intro time
  refine ⟨_, _, perform_restore h time, rfl, rfl, ⟨⟨rfl, rfl, rfl⟩, rfl, rfl, rfl⟩, fun k key raw later hk => ?_⟩
  refine ⟨_, perform_set ?_ later raw, rfl⟩
  exact hk

end Engine

open Engine

/-- **Savepoints are isolated.** Let the ids of savepoints be pairwise distinct. After any actions on a new engine, every
live savepoint was made by one of them and holds the mapping of that moment, with its size as the number of keys; it can
be restored to that mapping, the savepoints stay, and keys can be set as before. A manual savepoint stays live until its
own deletion. To restore or to delete what is not live is refused, and changes nothing. -/
theorem savepoints_are_isolated {config : Config} {ids : Nat → String} {e : Engine} (hids : Function.Injective ids)
    (hc : create config ids = .ok e) (actions : List (Nat × Action)) :
    (∀ x ∈ (e.run actions).savepoints.live,
      Made e actions x ∧ x.info.keyCount = x.snapshot.size ∧ Restorable (e.run actions) x) ∧
    (∀ before after, actions = before ++ after → ∀ x ∈ (e.run before).savepoints.live, x.info.kind = .manual →
      (∀ step ∈ after, step.2 ≠ .deleteSavepoint x.info.id) → x ∈ (e.run actions).savepoints.live) ∧
    ∀ id, (∀ x ∈ (e.run actions).savepoints.live, x.info.id ≠ id) → ∀ time,
      (e.run actions).perform time (.restore id) = (.error (.unknownSavepoint id), e.run actions) ∧
        (e.run actions).perform time (.deleteSavepoint id) = (.error (.unknownSavepoint id), e.run actions) := by
  have hi : Inv e := inv_create hc
  obtain ⟨-, keys, -, he⟩ := create_eq_ok.1 hc
  have hl : e.savepoints.live = [] := by rw [he]
  have hn : e.savepoints.Numbered := ⟨by simp [hl], by simp [hl]⟩
  have hn' := hi.numbered_run (by rw [he]; exact hids) hn actions
  refine ⟨fun x hx => ?_, ?_, fun id hid time => ?_⟩
  · have hm := hi.made_of_live hl actions hx
    have hk : x.info.keyCount = x.snapshot.size := by
      obtain ⟨before, time, a, after, -, -, hs, hk⟩ := hm
      rw [hk, hs]
    exact ⟨hm, hk, restorable_of_live (hn'.get?_of_mem hx)⟩
  · rintro before after rfl x hx hk ha
    rw [run_append]
    exact (hi.run before).manual_run hx hk ha
  · have hg : (e.run actions).savepoints.get? id = none := Savepoints.get?_of_absent hid
    have hr : (e.run actions).savepoints.remove id = none := Option.map_eq_none_iff.2 hg
    exact ⟨perform_restore_of_unknown hg time, perform_deleteSavepoint_of_unknown hr time⟩

/-- a savepoint, a change, and two scripts; the savepoint before the first one gives way to that before the second -/
def sampleScripts : List (Nat × Action) :=
  [(0, .save {}), (1, .set (.text "env:a") "5"), (2, .runScript "inc env:a 2" .abortRemaining),
    (3, .runScript "set env:b on" .abortRemaining)]

theorem sample_savepoints_are_isolated :
    (sample.run sampleScripts).savepoints.live.map (fun x => (x.info.id, x.info.keyCount)) = [("#0", 0), ("#2", 1)] ∧
      (∀ x ∈ (sample.run sampleScripts).savepoints.live,
        Made sample sampleScripts x ∧ x.info.keyCount = x.snapshot.size ∧ Restorable (sample.run sampleScripts) x) ∧
      (∀ x ∈ (sample.run [(0, .save {})]).savepoints.live, x ∈ (sample.run sampleScripts).savepoints.live) ∧
      (sample.run sampleScripts).perform 4 (.restore "#1") =
        (.error (.unknownSavepoint "#1"), sample.run sampleScripts) := by
  have hmanual : ∀ x ∈ (sample.run [(0, .save {})]).savepoints.live, x.info.kind = .manual := by decide +kernel
  obtain ⟨hlive, hkept, hunknown⟩ :=
    savepoints_are_isolated SavepointInfo.numberedId_injective create_sampleConfig sampleScripts
  refine ⟨by decide +kernel, hlive, fun x hx => ?_, (hunknown "#1" (by decide +kernel) 4).1⟩
  exact hkept [(0, .save {})] _ rfl x hx (hmanual x hx) (by simp)

end ScopedStore
