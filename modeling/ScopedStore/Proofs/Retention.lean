/-
How long savepoints are kept.

A `Request` asks for a savepoint, offers one to the policy, or gives one up; `Savepoints.serve` carries it out, and
`Serves` says what that does to the live savepoints: a new one goes to the end, at capacity the oldest automatic one
makes room for it, and all others stay as they are and where they are. `Kept` holds between two requests: the ids are
distinct, and the automatic savepoints are within the bound of the policy.

Main result, `retention_keeps_to_its_policy`: after any requests, the live savepoints are among those that were made, in
the order of their creation; the policy decides whether an automatic one is made; and a manual one is live from its
creation until it is given up.
-/
import ScopedStore.Proofs.Isolation

namespace ScopedStore
namespace Savepoints

/-! ## Requests -/

/-- what can be asked of savepoints -/
inductive Request where
  | manual (snapshot : Mapping) (options : SaveOptions) (time : Nat)
  | automatic (snapshot : Mapping) (time : Nat)
  | remove (id : String)

/-- what is answered: the id of a new savepoint, or the savepoint that was taken out -/
inductive Reply where
  | made (id : Option String)
  | removed (found : Option Savepoint)

/-- the savepoint that a request asks for, under an id -/
def Request.savepoint? (id : String) : Request → Option Savepoint
  | .manual snapshot options time =>
    some ⟨⟨id, options.label, time, .manual, options.source.getD .user, options.metadata, snapshot.size⟩, snapshot⟩
  | .automatic snapshot time => some ⟨⟨id, some automaticLabel, time, .automatic, .query, ∅, snapshot.size⟩, snapshot⟩
  | .remove _ => none

/-- what was made for a request, by the answer to it -/
def Request.made (q : Request) : Reply → List Savepoint
  | .made (some id) => (q.savepoint? id).toList
  | _ => []

/-- carries out a request -/
def serve (s : Savepoints) : Request → Reply × Savepoints
  | .manual snapshot options time =>
    let (id, t) := s.createManual snapshot options time
    (.made (some id), t)
  | .automatic snapshot time =>
    let (id, t) := s.createAutomatic snapshot time
    (.made id, t)
  | .remove id =>
    match s.remove id with
    | some (found, t) => (.removed (some found), t)
    | none => (.removed none, s)

/-- carries out requests one after the other -/
def serveAll (s : Savepoints) (requests : List Request) : Savepoints := requests.foldl (fun s q => (s.serve q).2) s

/-- every savepoint that is made for the requests, in the order of creation -/
def creations (s : Savepoints) : List Request → List Savepoint
  | [] => []
  | q :: requests => q.made (s.serve q).1 ++ (s.serve q).2.creations requests

/-- the policy lets an automatic savepoint be made now -/
structure Admits (s : Savepoints) : Prop where
  enabled : s.policy.enabled
  positive : 0 < s.policy.maxCount
  room : s.policy.pruneOldest ∨ s.automaticCount < s.policy.maxCount

/-- what a request does to the savepoints -/
inductive Serves (s : Savepoints) : Request → Reply → Savepoints → Prop where
  | saved {snapshot : Mapping} {options : SaveOptions} {time : Nat} {x : Savepoint}
      (asked : (Request.manual snapshot options time).savepoint? (s.ids s.created) = some x) :
      Serves s (.manual snapshot options time) (.made (some x.info.id))
        { s with live := s.live ++ [x], created := s.created + 1 }
  /-- below capacity, nothing has to make room -/
  | admitted {snapshot : Mapping} {time : Nat} {x : Savepoint} (admits : s.Admits)
      (below : s.automaticCount < s.policy.maxCount)
      (asked : (Request.automatic snapshot time).savepoint? (s.ids s.created) = some x) :
      Serves s (.automatic snapshot time) (.made (some x.info.id))
        { s with live := s.live ++ [x], created := s.created + 1 }
  /-- at capacity, the oldest automatic savepoint makes room -/
  | evicted {snapshot : Mapping} {time : Nat} {before after : List Savepoint} {oldest x : Savepoint} (admits : s.Admits)
      (full : s.automaticCount = s.policy.maxCount) (split : s.live = before ++ oldest :: after)
      (automatic : isAutomatic oldest) (first : ∀ y ∈ before, ¬isAutomatic y)
      (asked : (Request.automatic snapshot time).savepoint? (s.ids s.created) = some x) :
      Serves s (.automatic snapshot time) (.made (some x.info.id))
        { s with live := before ++ after ++ [x], created := s.created + 1 }
  | refused {snapshot : Mapping} {time : Nat} (h : ¬s.Admits) : Serves s (.automatic snapshot time) (.made none) s
  | removed {id : String} {before after : List Savepoint} {x : Savepoint} (split : s.live = before ++ x :: after)
      (named : x.info.id = id) (others : ∀ y ∈ before ++ after, y.info.id ≠ id) :
      Serves s (.remove id) (.removed (some x)) { s with live := before ++ after }
  | unknown {id : String} (absent : ∀ y ∈ s.live, y.info.id ≠ id) : Serves s (.remove id) (.removed none) s

/-- how many automatic savepoints the policy has room for -/
def capacity (s : Savepoints) : Nat := if s.policy.enabled then s.policy.maxCount else 0

/-- what holds between two requests -/
structure Kept (s : Savepoints) : Prop where
  numbered : s.Numbered
  bounded : s.automaticCount ≤ s.capacity

theorem capacity_le (s : Savepoints) : s.capacity ≤ s.policy.maxCount := by
  unfold capacity
  split_ifs
  · exact Nat.le_refl _
  · exact Nat.zero_le _

theorem Admits.capacity {s : Savepoints} (h : s.Admits) : s.capacity = s.policy.maxCount := if_pos h.enabled

/-! ## Making room -/

/-- below capacity, no step takes anything out -/
theorem foldl_evict_of_lt {max : Nat} {live : List Savepoint} (h : live.countP isAutomatic < max) (steps : List Nat) :
    steps.foldl (fun live _ => if max ≤ live.countP isAutomatic then live.eraseP isAutomatic else live) live = live := by
  induction steps with
  | nil => rfl
  | cons n steps ih => rw [List.foldl_cons, if_neg (Nat.not_le_of_lt h), ih]

theorem evictTo_of_lt {max : Nat} {live : List Savepoint} (h : live.countP isAutomatic < max) :
    evictTo max live = live := foldl_evict_of_lt h _

/-- at capacity, the first step takes out the oldest automatic savepoint -/
theorem evictTo_of_eq {max : Nat} {live : List Savepoint} (hmax : 0 < max) (h : live.countP isAutomatic = max) :
    ∃ before oldest after, live = before ++ oldest :: after ∧ isAutomatic oldest ∧ (∀ y ∈ before, ¬isAutomatic y) ∧
      evictTo max live = before ++ after ∧ (before ++ after).countP isAutomatic < max := by
  obtain ⟨x, hx, hauto⟩ := List.countP_pos_iff.1 (h ▸ hmax)
  obtain ⟨oldest, before, after, hfirst, hold, hlive, herase⟩ := List.exists_of_eraseP hx hauto
  have hlt : (before ++ after).countP isAutomatic < max := by
    rw [← h, hlive, List.countP_append, List.countP_append, List.countP_cons_of_pos hold]
    omega
  refine ⟨before, oldest, after, hlive, hold, hfirst, ?_, hlt⟩
  have hlength : live.length = (before ++ after).length + 1 := by simp [hlive]; omega
  unfold evictTo
  rw [hlength, List.range_succ_eq_map, List.foldl_cons, if_pos (Nat.le_of_eq h.symm), herase]
  exact foldl_evict_of_lt hlt _

/-! ## One request -/

section Requests

variable {s t : Savepoints} {q : Request} {r : Reply}

/-- taking one out keeps the others in order -/
theorem sublist_of_split {live before after : List Savepoint} {x : Savepoint} (split : live = before ++ x :: after) :
    (before ++ after).Sublist live := split ▸ (List.sublist_cons_self x after).append_left before

theorem Request.id_of_savepoint? {id : String} {x : Savepoint} (h : q.savepoint? id = some x) : x.info.id = id := by
  cases q with
  | manual snapshot options time =>
    obtain rfl := Option.some.inj h
    rfl
  | automatic snapshot time =>
    obtain rfl := Option.some.inj h
    rfl
  | remove id => cases h

theorem createAutomatic_of_not_admits (h : ¬s.Admits) (snapshot : Mapping) (time : Nat) :
    s.createAutomatic snapshot time = (none, s) := by
  unfold createAutomatic
  split_ifs with hoff hfull
  · rfl
  · rfl
  · simp only [Bool.or_eq_true, Bool.not_eq_true', decide_eq_true_eq, not_or, Bool.not_eq_false] at hoff
    simp only [Bool.not_eq_true', not_and, Bool.not_eq_false] at hfull
    refine absurd ⟨hoff.1, Nat.pos_of_ne_zero hoff.2, ?_⟩ h
    rcases Nat.lt_or_ge s.automaticCount s.policy.maxCount with hlt | hge
    · exact .inr hlt
    · exact .inl (hfull hge)

/-- when the policy admits one, a savepoint is made after room was made for it -/
theorem createAutomatic_of_admits (h : s.Admits) (snapshot : Mapping) (time : Nat) :
    s.createAutomatic snapshot time =
      let (id, t) := push { s with live := evictTo s.policy.maxCount s.live } snapshot .automatic .query
        (some automaticLabel) ∅ time
      (some id, t) := by
  have hroom : ¬(s.policy.maxCount ≤ s.automaticCount ∧ !s.policy.pruneOldest) := by
    rintro ⟨hfull, hprune⟩
    rcases h.room with hp | hlt
    · simp [hp] at hprune
    · exact Nat.not_le_of_lt hlt hfull
  have hon : ¬(!s.policy.enabled || s.policy.maxCount = 0) := by
    have hp := h.positive
    simp [h.enabled]
    omega
  rw [createAutomatic, if_neg hon, if_neg hroom]

/-- ids are distinct, so what is taken out is the only savepoint with that id -/
theorem Numbered.remove_eq_some (h : s.Numbered) {id : String} {x : Savepoint} (hr : s.remove id = some (x, t)) :
    ∃ before after, s.live = before ++ x :: after ∧ x.info.id = id ∧ (∀ y ∈ before ++ after, y.info.id ≠ id) ∧
      t = { s with live := before ++ after } := by
  obtain ⟨hfound, rfl⟩ := remove_frame hr
  have hx : x.info.id = id := by simpa using List.find?_some hfound
  obtain ⟨y, before, after, hfirst, hy, hlive, herase⟩ :=
    List.exists_of_eraseP (p := (·.info.id = id)) (List.mem_of_find?_eq_some hfound) (by simpa using hx)
  obtain rfl : x = y := by
    have hfirst' : s.get? id = some y := List.find?_eq_some_iff_append.2 ⟨hy, before, after, hlive, by simpa using hfirst⟩
    exact Option.some.inj (hfound.symm.trans hfirst')
  have hd := h.distinct
  rw [hlive] at hd
  refine ⟨before, after, hlive, hx, fun z hz => ?_, by rw [herase]⟩
  rcases List.mem_append.1 hz with hz | hz
  · simpa using hfirst z hz
  · have hne := (List.pairwise_cons.1 (List.pairwise_append.1 hd).2.1).1 z hz
    exact fun he => hne (hx.trans he.symm)

/-- **What a request does.** -/
theorem Kept.serves (h : s.Kept) (q : Request) : Serves s q (s.serve q).1 (s.serve q).2 := by
  cases q with
  | manual snapshot options time => exact .saved rfl
  | automatic snapshot time =>
    simp only [serve]
    by_cases ha : s.Admits
    · rw [createAutomatic_of_admits ha]
      rcases Nat.lt_or_eq_of_le (h.bounded.trans s.capacity_le) with hlt | heq
      · rw [evictTo_of_lt hlt]
        exact .admitted ha hlt rfl
      · obtain ⟨before, oldest, after, hlive, hold, hfirst, hevict, -⟩ := evictTo_of_eq ha.positive heq
        rw [hevict]
        exact .evicted ha heq hlive hold hfirst rfl
    · rw [createAutomatic_of_not_admits ha]
      exact .refused ha
  | remove id =>
    simp only [serve]
    cases hr : s.remove id with
    | none =>
      have hnone := List.find?_eq_none.1 (Option.map_eq_none_iff.1 hr)
      exact .unknown fun y hy => by simpa using hnone y hy
    | some removed =>
      obtain ⟨before, after, hlive, hid, hothers, ht⟩ := h.numbered.remove_eq_some hr
      simp only [ht]
      exact .removed hlive hid hothers

/-- what never changes -/
theorem Serves.frame (h : Serves s q r t) : t.policy = s.policy ∧ t.ids = s.ids := by
  cases h <;> exact ⟨rfl, rfl⟩

theorem Serves.numbered (hids : Function.Injective s.ids) (hn : s.Numbered) (h : Serves s q r t) : t.Numbered := by
  cases h with
  | saved asked => exact hn.append hids (Request.id_of_savepoint? asked)
  | admitted admits below asked => exact hn.append hids (Request.id_of_savepoint? asked)
  | evicted admits full split automatic first asked =>
    exact (hn.of_sublist (sublist_of_split split)).append hids (Request.id_of_savepoint? asked)
  | refused h => exact hn
  | removed split named others => exact hn.of_sublist (sublist_of_split split)
  | unknown absent => exact hn

theorem Serves.bounded (hb : s.automaticCount ≤ s.capacity) (h : Serves s q r t) : t.automaticCount ≤ t.capacity := by
  have hone (x : Savepoint) : [x].countP isAutomatic ≤ 1 := List.countP_le_length
  cases h with
  | @saved snapshot options time x asked =>
    obtain rfl := Option.some.inj asked
    change (s.live ++ [_]).countP isAutomatic ≤ s.capacity
    rw [List.countP_append]
    exact hb
  | @admitted snapshot time x admits below asked =>
    have hx := hone x
    have hc := admits.capacity
    change (s.live ++ [x]).countP isAutomatic ≤ s.capacity
    rw [List.countP_append, hc]
    unfold automaticCount at below
    omega
  | @evicted snapshot time before after oldest x admits full split automatic first asked =>
    have hx := hone x
    have hc := admits.capacity
    change (before ++ after ++ [x]).countP isAutomatic ≤ s.capacity
    rw [automaticCount, split, List.countP_append, List.countP_cons_of_pos automatic] at full
    rw [List.countP_append, List.countP_append, hc]
    omega
  | refused h => exact hb
  | removed split named others => exact (sublist_of_split split).countP_le.trans hb
  | unknown absent => exact hb

theorem Serves.kept (hids : Function.Injective s.ids) (hk : s.Kept) (h : Serves s q r t) : t.Kept :=
  ⟨h.numbered hids hk.numbered, h.bounded hk.bounded⟩

/-- what is live after a request was live before, or was made for it; the order is that of creation -/
theorem Serves.sublist (h : Serves s q r t) : t.live.Sublist (s.live ++ q.made r) := by
  have hmade : ∀ {q : Request} {x : Savepoint}, q.savepoint? (s.ids s.created) = some x →
      q.made (.made (some x.info.id)) = [x] := by
    intro q x asked
    rw [Request.made, Request.id_of_savepoint? asked, asked]
    rfl
  cases h with
  | saved asked => rw [hmade asked]
  | admitted admits below asked => rw [hmade asked]
  | @evicted snapshot time before after oldest x admits full split automatic first asked =>
    rw [hmade asked]
    exact (sublist_of_split split).append_right [x]
  | refused h => exact List.sublist_append_left ..
  | removed split named others => exact (sublist_of_split split).trans (List.sublist_append_left ..)
  | unknown absent => exact List.sublist_append_left ..

/-- the policy decides whether an automatic savepoint is made -/
theorem Serves.made_iff {snapshot : Mapping} {time : Nat} (h : Serves s (.automatic snapshot time) r t) :
    (∃ id, r = .made (some id)) ↔ s.Admits := by
  cases h with
  | admitted admits below asked => exact ⟨fun _ => admits, fun _ => ⟨_, rfl⟩⟩
  | evicted admits full split automatic first asked => exact ⟨fun _ => admits, fun _ => ⟨_, rfl⟩⟩
  | refused h => simp [h]

/-- a manual savepoint is dropped by its own removal only -/
theorem Serves.keeps_manual (h : Serves s q r t) {x : Savepoint} (hx : x ∈ s.live) (hk : x.info.kind = .manual)
    (hq : q ≠ .remove x.info.id) : x ∈ t.live := by
  cases h with
  | saved asked => exact List.mem_append_left _ hx
  | admitted admits below asked => exact List.mem_append_left _ hx
  | @evicted snapshot time before after oldest y admits full split automatic first asked =>
    have hne : x ≠ oldest := by
      rintro rfl
      simp [isAutomatic, hk] at automatic
    rw [split] at hx
    exact List.mem_append_left _ (by simpa [hne] using hx)
  | refused h => exact hx
  | @removed id before after y split named others =>
    have hne : x ≠ y := by
      rintro rfl
      exact hq (congrArg Request.remove named.symm)
    rw [split] at hx
    simpa [hne] using hx
  | unknown absent => exact hx

/-- what is live after a request was live before, and was not taken out, or was made for the request -/
theorem Serves.live_cases (h : Serves s q r t) {x : Savepoint} (hx : x ∈ t.live) :
    x ∈ s.live ∧ q ≠ .remove x.info.id ∨ r = .made (some x.info.id) ∧ q.savepoint? x.info.id = some x := by
  have hnew : ∀ {q : Request} {x y : Savepoint}, q.savepoint? (s.ids s.created) = some y → x ∈ [y] →
      Reply.made (some y.info.id) = .made (some x.info.id) ∧ q.savepoint? x.info.id = some x := by
    intro q x y asked hxy
    obtain rfl := List.mem_singleton.1 hxy
    exact ⟨rfl, (Request.id_of_savepoint? asked).symm ▸ asked⟩
  cases h with
  | saved asked => exact (List.mem_append.1 hx).imp (fun hx => ⟨hx, nofun⟩) (hnew asked)
  | admitted admits below asked => exact (List.mem_append.1 hx).imp (fun hx => ⟨hx, nofun⟩) (hnew asked)
  | evicted admits full split automatic first asked =>
    exact (List.mem_append.1 hx).imp (fun hx => ⟨(sublist_of_split split).subset hx, nofun⟩) (hnew asked)
  | refused h => exact .inl ⟨hx, nofun⟩
  | removed split named others =>
    exact .inl ⟨(sublist_of_split split).subset hx, fun hq => others x hx (Request.remove.inj hq).symm⟩
  | @unknown id absent => exact .inl ⟨hx, fun hq => absent x hx (Request.remove.inj hq).symm⟩

theorem Serves.mem_of_made (h : Serves s q r t) {x : Savepoint} (hr : r = .made (some x.info.id))
    (hq : q.savepoint? x.info.id = some x) : x ∈ t.live := by
  have hnew : ∀ {y : Savepoint}, q.savepoint? (s.ids s.created) = some y →
      Reply.made (some y.info.id) = .made (some x.info.id) → x ∈ [y] := by
    intro y asked hid
    obtain hid : y.info.id = x.info.id := Option.some.inj (Reply.made.inj hid)
    rw [← hid, Request.id_of_savepoint? asked, asked] at hq
    exact List.mem_singleton.2 (Option.some.inj hq).symm
  cases h with
  | saved asked => exact List.mem_append_right _ (hnew asked hr)
  | admitted admits below asked => exact List.mem_append_right _ (hnew asked hr)
  | evicted admits full split automatic first asked => exact List.mem_append_right _ (hnew asked hr)
  | refused h => cases hr
  | removed split named others => cases hr
  | unknown absent => cases hr

end Requests

/-! ## Many requests -/

section Runs

variable {s : Savepoints}

theorem serveAll_cons (s : Savepoints) (q : Request) (requests : List Request) :
    s.serveAll (q :: requests) = (s.serve q).2.serveAll requests := rfl

theorem serveAll_append (s : Savepoints) (l l' : List Request) : s.serveAll (l ++ l') = (s.serveAll l).serveAll l' :=
  List.foldl_append

theorem Kept.next (hk : s.Kept) (hids : Function.Injective s.ids) (q : Request) :
    (s.serve q).2.Kept ∧ Function.Injective (s.serve q).2.ids := by
  have h := hk.serves q
  exact ⟨h.kept hids hk, h.frame.2 ▸ hids⟩

theorem Kept.run (hk : s.Kept) (hids : Function.Injective s.ids) (requests : List Request) :
    (s.serveAll requests).Kept ∧ (s.serveAll requests).policy = s.policy ∧ (s.serveAll requests).ids = s.ids := by
  induction requests generalizing s with
  | nil => exact ⟨hk, rfl, rfl⟩
  | cons q requests ih =>
    obtain ⟨hk', hids'⟩ := hk.next hids q
    obtain ⟨h, hpolicy, hsame⟩ := ih hk' hids'
    have hq := (hk.serves q).frame
    exact ⟨h, hpolicy.trans hq.1, hsame.trans hq.2⟩

/-- **Live savepoints are among those that were made**, in the order of creation. -/
theorem Kept.sublist_creations (hk : s.Kept) (hids : Function.Injective s.ids) (requests : List Request) :
    (s.serveAll requests).live.Sublist (s.live ++ s.creations requests) := by
  induction requests generalizing s with
  | nil => exact List.sublist_append_left ..
  | cons q requests ih =>
    obtain ⟨hk', hids'⟩ := hk.next hids q
    rw [serveAll_cons, creations, ← List.append_assoc]
    exact (ih hk' hids').trans ((hk.serves q).sublist.append_right _)

theorem Kept.manual_run (hk : s.Kept) (hids : Function.Injective s.ids) {x : Savepoint} (hx : x ∈ s.live)
    (hm : x.info.kind = .manual) {requests : List Request} (hr : ∀ q ∈ requests, q ≠ .remove x.info.id) :
    x ∈ (s.serveAll requests).live := by
  induction requests generalizing s with
  | nil => exact hx
  | cons q requests ih =>
    obtain ⟨hk', hids'⟩ := hk.next hids q
    have hq := (hk.serves q).keeps_manual hx hm (hr q List.mem_cons_self)
    exact ih hk' hids' hq fun q' h => hr q' (List.mem_cons_of_mem q h)

/-- one of the requests made the savepoint, and none of those after it removes it -/
def Outstanding (s : Savepoints) (requests : List Request) (x : Savepoint) : Prop :=
  ∃ before q after, requests = before ++ q :: after ∧ ((s.serveAll before).serve q).1 = .made (some x.info.id) ∧
    q.savepoint? x.info.id = some x ∧ ∀ q' ∈ after, q' ≠ .remove x.info.id

theorem Kept.outstanding_of_live (hk : s.Kept) (hids : Function.Injective s.ids) (hl : s.live = [])
    (requests : List Request) {x : Savepoint} (hx : x ∈ (s.serveAll requests).live) : Outstanding s requests x := by
  induction requests using List.reverseRecOn with
  | nil =>
    rw [serveAll, List.foldl_nil, hl] at hx
    cases hx
  | append_singleton requests q ih =>
    rw [serveAll_append] at hx
    rcases ((hk.run hids requests).1.serves q).live_cases hx with ⟨hx, hq⟩ | ⟨hr, ha⟩
    · obtain ⟨before, q', after, rfl, hr, ha, hkept⟩ := ih hx
      refine ⟨before, q', after ++ [q], by simp, hr, ha, fun q'' h => ?_⟩
      rcases List.mem_append.1 h with h | h
      · exact hkept q'' h
      · exact List.mem_singleton.1 h ▸ hq
    · exact ⟨requests, q, [], rfl, hr, ha, nofun⟩

theorem Kept.live_of_outstanding (hk : s.Kept) (hids : Function.Injective s.ids) {requests : List Request}
    {x : Savepoint} (hm : x.info.kind = .manual) (h : Outstanding s requests x) : x ∈ (s.serveAll requests).live := by
  obtain ⟨before, q, after, rfl, hr, ha, hkept⟩ := h
  obtain ⟨hbefore, -, hsame⟩ := hk.run hids before
  have hids' : Function.Injective (s.serveAll before).ids := hsame ▸ hids
  obtain ⟨hk', hids''⟩ := hbefore.next hids' q
  rw [serveAll_append, serveAll_cons]
  exact hk'.manual_run hids'' ((hbefore.serves q).mem_of_made hr ha) hm hkept

end Runs
end Savepoints

open Savepoints

/-- **Retention keeps to its policy.** Let the ids of savepoints be pairwise distinct, and take any requests to a new
collection of savepoints. The live savepoints are among those that were made, in the order of their creation. The
automatic ones never exceed the bound of the policy, and there is none while it is off. The next request does what
`Serves` says and no more; an automatic savepoint is made just when the policy is on, has a bound above zero, and prunes
or is below that bound. A manual savepoint is live from its creation until its removal. -/
theorem retention_keeps_to_its_policy (policy : AutoSavepointPolicy) {ids : Nat → String}
    (hids : Function.Injective ids) (requests : List Request) :
    let start : Savepoints := { policy, ids }
    let s := start.serveAll requests
    s.live.Sublist (start.creations requests) ∧
      (s.automaticCount ≤ policy.maxCount ∧ (policy.enabled = false → s.automaticCount = 0)) ∧
      (∀ q, Serves s q (s.serve q).1 (s.serve q).2) ∧
      (∀ snapshot time, (∃ id, (s.serve (.automatic snapshot time)).1 = .made (some id)) ↔
        policy.enabled ∧ 0 < policy.maxCount ∧ (policy.pruneOldest ∨ s.automaticCount < policy.maxCount)) ∧
      ∀ x, x.info.kind = .manual → (x ∈ s.live ↔ Outstanding start requests x) := by
  intro start s
  have hstart : start.Kept := ⟨⟨nofun, .nil⟩, Nat.zero_le _⟩
  have hk : s.Kept := (hstart.run hids requests).1
  have hpolicy : s.policy = policy := (hstart.run hids requests).2.1
  refine ⟨hstart.sublist_creations hids requests, ⟨?_, fun hoff => ?_⟩, hk.serves, fun snapshot time => ?_,
    fun x hm => ⟨hstart.outstanding_of_live hids rfl requests, hstart.live_of_outstanding hids hm⟩⟩
  · exact hpolicy ▸ hk.bounded.trans s.capacity_le
  · have hc : s.capacity = 0 := by
      rw [capacity, hpolicy, hoff]
      rfl
    exact Nat.le_zero.1 (hc ▸ hk.bounded)
  · rw [(hk.serves _).made_iff, ← hpolicy]
    exact ⟨fun h => ⟨h.enabled, h.positive, h.room⟩, fun ⟨h1, h2, h3⟩ => ⟨h1, h2, h3⟩⟩

/-- one manual savepoint between two automatic ones, with room for one of these -/
def sampleRequests : List Request :=
  [.automatic ∅ 0, .manual ∅ {} 1, .automatic ((∅ : Mapping).insert ⟨"env", "a"⟩ "5") 2]

theorem sample_retention_keeps_to_its_policy :
    let start : Savepoints := { policy := { enabled := true, maxCount := 1 } }
    let s := start.serveAll sampleRequests
    s.live.map (fun x => (x.info.id, x.info.keyCount)) = [("#1", 0), ("#2", 1)] ∧
      s.live.Sublist (start.creations sampleRequests) ∧ s.automaticCount ≤ 1 ∧
      (∃ id, (s.serve (.automatic ∅ 3)).1 = .made (some id)) ∧
      ∀ x ∈ s.live, x.info.kind = .manual → Outstanding start sampleRequests x := by
  intro start s
  obtain ⟨hsub, ⟨hbound, -⟩, -, hmade, hmanual⟩ := retention_keeps_to_its_policy
    { enabled := true, maxCount := 1 } SavepointInfo.numberedId_injective sampleRequests
  refine ⟨by decide +kernel, hsub, hbound, ?_, fun x hx hm => (hmanual x hm).1 hx⟩
  exact (hmade ∅ 3).2 ⟨rfl, Nat.one_pos, .inl rfl⟩

end ScopedStore
