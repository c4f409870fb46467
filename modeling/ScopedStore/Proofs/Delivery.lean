/-
The life of a bus.

A `Step` subscribes a listener, unsubscribes a handle or dispatches an event; `EventBus.serve` carries it out. `Ordered`
holds between two steps: handles grow along the subscriptions, and all of them are below the next one. A subscription is
`Current` after steps if one of them made it and none of the later ones took it off.

Main result, `delivery_over_a_whole_life`: after any steps, the handles given out ascend; a listener has received the
events that its filter covers, up to the first removal of its handle; an event goes to the current subscriptions in
their order, and those that complete are counted; and a removal takes off one current subscription or nothing.
-/
import ScopedStore.Proofs.Mirror

namespace ScopedStore
namespace EventBus

/-! ## Steps -/

/-- what can be done to a bus -/
inductive Step where
  | subscribe (filter : EventFilter) (listener : Listener)
  | unsubscribe (handle : Nat)
  | dispatch (x : Event)

/-- what is answered: a new handle, whether a handle was known, or how many calls completed -/
inductive Reply where
  | given (handle : Nat)
  | known (known : Bool)
  | completed (count : Nat)
  deriving DecidableEq

def Reply.handle? : Reply → Option Nat
  | .given handle => some handle
  | _ => none

/-- the step takes the listener with this handle off the bus -/
def Step.removes (handle : Nat) : Step → Bool
  | .unsubscribe h => h = handle
  | _ => false

def Step.event? : Step → Option Event
  | .dispatch x => some x
  | _ => none

/-- the events that are dispatched in steps, in order -/
def dispatched (steps : List Step) : List Event := steps.filterMap Step.event?

/-- carries out a step -/
def serve (b : EventBus) : Step → Reply × EventBus
  | .subscribe filter listener =>
    let (handle, b) := b.subscribe filter listener
    (.given handle, b)
  | .unsubscribe handle =>
    let (known, b) := b.unsubscribe handle
    (.known known, b)
  | .dispatch x =>
    let (count, b) := b.dispatch x
    (.completed count, b)

/-- carries out steps one after the other -/
def serveAll (b : EventBus) (steps : List Step) : EventBus := steps.foldl (fun b step => (b.serve step).2) b

/-- the answers to steps, in order -/
def answers (b : EventBus) : List Step → List Reply
  | [] => []
  | step :: steps => (b.serve step).1 :: answers (b.serve step).2 steps

/-- one of the steps made the subscription, and none of those after it takes its handle off -/
def Current (steps : List Step) (s : Subscription) : Prop :=
  ∃ before after, steps = before ++ .subscribe s.filter s.listener :: after ∧
    ((serveAll {} before).serve (.subscribe s.filter s.listener)).1 = .given s.handle ∧
    ∀ step ∈ after, ¬step.removes s.handle

/-- what holds between two steps -/
structure Ordered (b : EventBus) : Prop extends Sound b where
  ascending : b.subscriptions.Pairwise fun s s' => s.handle < s'.handle

theorem serveAll_cons (b : EventBus) (step : Step) (steps : List Step) :
    b.serveAll (step :: steps) = (b.serve step).2.serveAll steps := rfl

theorem serveAll_append (b : EventBus) (l l' : List Step) : b.serveAll (l ++ l') = (b.serveAll l).serveAll l' :=
  List.foldl_append

theorem dispatched_cons (step : Step) (steps : List Step) :
    dispatched (step :: steps) = step.event?.toList ++ dispatched steps := by
  cases step <;> rfl

theorem Step.eq_unsubscribe {handle : Nat} {step : Step} (h : step.removes handle) : step = .unsubscribe handle := by
  cases step with
  | unsubscribe h' => exact congrArg Step.unsubscribe (of_decide_eq_true h)
  | subscribe filter listener => cases h
  | dispatch x => cases h

/-! ## One step -/

variable {b : EventBus} {s : Subscription} {handle : Nat} {step : Step}

theorem Ordered.serve (h : b.Ordered) (step : Step) : (b.serve step).2.Ordered := by
  cases step with
  | subscribe filter listener =>
    refine ⟨h.toSound.subscribe filter listener, ?_⟩
    refine List.pairwise_append.2 ⟨h.ascending, List.pairwise_singleton .., fun s hs s' hs' => ?_⟩
    obtain rfl := List.mem_singleton.1 hs'
    exact h.given s hs
  | unsubscribe handle => exact ⟨h.toSound.unsubscribe handle, h.ascending.filter _⟩
  | dispatch x =>
    have htells := tells_dispatch b x
    exact ⟨htells.sound h.toSound, htells.subscriptions ▸ h.ascending⟩

/-- a subscription stays until its handle is taken off -/
theorem mem_serve (hs : s ∈ b.subscriptions) (hstep : ¬step.removes s.handle) :
    s ∈ (b.serve step).2.subscriptions := by
  cases step with
  | subscribe filter listener => exact List.mem_append_left _ hs
  | unsubscribe h =>
    have hne : s.handle ≠ h := fun he => hstep (decide_eq_true he.symm)
    exact List.mem_filter.2 ⟨hs, decide_eq_true hne⟩
  | dispatch x => exact (tells_dispatch b x).subscriptions ▸ hs

/-- a subscription was there and was not taken off, or the step made it -/
theorem mem_serve_cases (hs : s ∈ (b.serve step).2.subscriptions) :
    s ∈ b.subscriptions ∧ ¬step.removes s.handle ∨
      step = .subscribe s.filter s.listener ∧ (b.serve step).1 = .given s.handle := by
  cases step with
  | subscribe filter listener =>
    rcases List.mem_append.1 hs with hs | hs
    · exact .inl ⟨hs, nofun⟩
    · obtain rfl := List.mem_singleton.1 hs
      exact .inr ⟨rfl, rfl⟩
  | unsubscribe h =>
    obtain ⟨hs, hne⟩ := List.mem_filter.1 hs
    exact .inl ⟨hs, fun he => of_decide_eq_true hne (of_decide_eq_true he).symm⟩
  | dispatch x => exact .inl ⟨(tells_dispatch b x).subscriptions ▸ hs, nofun⟩

/-- a subscription is told what a step dispatches and its filter covers -/
theorem Sound.received_serve (h : b.Sound) (hs : s ∈ b.subscriptions) (step : Step) :
    (b.serve step).2.received s.handle =
      b.received s.handle ++ step.event?.toList.filter (s.filter.covers ·.key) := by
  cases step with
  | subscribe filter listener => exact (List.append_nil _).symm
  | unsubscribe h' => exact (List.append_nil _).symm
  | dispatch x => exact (tells_dispatch b x).received h hs

/-- a handle that was given out and is not on the bus -/
structure Gone (b : EventBus) (handle : Nat) : Prop where
  given : handle < b.nextHandle
  absent : ∀ s ∈ b.subscriptions, s.handle ≠ handle

theorem Sound.gone_unsubscribe (h : b.Sound) (hs : s ∈ b.subscriptions) : (b.unsubscribe s.handle).2.Gone s.handle :=
  ⟨h.given s hs, fun _ hs' => of_decide_eq_true (List.mem_filter.1 hs').2⟩

theorem Gone.serve (h : b.Gone handle) (step : Step) : (b.serve step).2.Gone handle := by
  refine ⟨?_, fun s hs he => ?_⟩
  · cases step with
    | subscribe filter listener => exact Nat.lt_succ_of_lt h.given
    | unsubscribe h' => exact h.given
    | dispatch x => exact (tells_dispatch b x).nextHandle ▸ h.given
  · rcases mem_serve_cases hs with ⟨hs, -⟩ | ⟨rfl, hr⟩
    · exact h.absent s hs he
    · have hnew : b.nextHandle = s.handle := Reply.given.inj hr
      exact Nat.ne_of_lt h.given (he.symm.trans hnew.symm)

/-- nothing is told to a handle that is not on the bus -/
theorem Gone.received_serve (h : b.Gone handle) (step : Step) :
    (b.serve step).2.received handle = b.received handle := by
  cases step with
  | subscribe filter listener => rfl
  | unsubscribe h' => rfl
  | dispatch x =>
    have hnone : (callsFor b.subscriptions x).filter (·.handle = handle) = [] := by
      refine List.filter_eq_nil_iff.2 fun c hc => ?_
      obtain ⟨s, hs, rfl⟩ := List.mem_map.1 hc
      simpa using h.absent s (List.mem_filter.1 hs).1
    change (b.dispatch x).2.received handle = _
    rw [received, (tells_dispatch b x).calls, List.flatMap_singleton, List.filter_append, hnone, List.append_nil]
    rfl

/-- a removal takes off the only subscription with its handle -/
theorem Sound.unsubscribe_of_mem (h : b.Sound) (hs : s ∈ b.subscriptions) :
    ∃ before after, b.subscriptions = before ++ s :: after ∧
      b.unsubscribe s.handle = (true, { b with subscriptions := before ++ after }) := by
  obtain ⟨before, after, hl⟩ := List.append_of_mem hs
  have hd := h.distinct
  rw [hl] at hd
  obtain ⟨-, hafter, hbefore⟩ := List.pairwise_append.1 hd
  have hothers : (before ++ s :: after).filter (·.handle ≠ s.handle) = before ++ after := by
    rw [List.filter_append, List.filter_cons_of_neg (by simp)]
    congr 1
    · exact List.filter_eq_self.2 fun y hy => by simpa using hbefore y hy s List.mem_cons_self
    · exact List.filter_eq_self.2 fun y hy => by simpa using ((List.pairwise_cons.1 hafter).1 y hy).symm
  have hknown : b.subscriptions.any (·.handle = s.handle) = true := List.any_eq_true.2 ⟨s, hs, decide_eq_true rfl⟩
  refine ⟨before, after, hl, ?_⟩
  rw [EventBus.unsubscribe, hknown, hl, hothers]

theorem unsubscribe_of_absent (h : ∀ s ∈ b.subscriptions, s.handle ≠ handle) : b.unsubscribe handle = (false, b) := by
  have hunknown : b.subscriptions.any (·.handle = handle) = false :=
    List.any_eq_false.2 fun s hs => by simpa using h s hs
  have hall : b.subscriptions.filter (·.handle ≠ handle) = b.subscriptions :=
    List.filter_eq_self.2 fun s hs => decide_eq_true (h s hs)
  rw [unsubscribe, hunknown, hall]

theorem received_deliver_of_ne (b : EventBus) (x : Event) (h : s.handle ≠ handle) :
    (b.deliver x s).2.received handle = b.received handle := by
  simp [received, calls, deliver, List.filter_append, h]

/-- listeners that are told one event do not see each other's calls, so each answers from what it had received -/
theorem deliverAll_fst (x : Event) {l : List Subscription} (hl : l.Pairwise fun s s' => s.handle ≠ s'.handle)
    (b : EventBus) :
    (deliverAll x l b).1 = l.countP fun s => s.listener (b.received s.handle) x = .completes := by
  induction l generalizing b with
  | nil => rfl
  | cons s l ih =>
    obtain ⟨hs, hl⟩ := List.pairwise_cons.1 hl
    have hrest : (l.countP fun s' => s'.listener ((b.deliver x s).2.received s'.handle) x = .completes) =
        l.countP fun s' => s'.listener (b.received s'.handle) x = .completes :=
      List.countP_congr fun s' hs' => by rw [received_deliver_of_ne b x (hs s' hs')]
    have hhead : (deliverAll x (s :: l) b).1 =
        (if (b.deliver x s).1 then 1 else 0) + (deliverAll x l (b.deliver x s).2).1 := rfl
    rw [hhead, ih hl, hrest, List.countP_cons, Nat.add_comm]
    rfl

/-! ## Many steps -/

theorem Ordered.serveAll (h : b.Ordered) (steps : List Step) : (b.serveAll steps).Ordered := by
  induction steps generalizing b with
  | nil => exact h
  | cons step steps ih => exact ih (h.serve step)

theorem ordered_new : Ordered {} := ⟨⟨.nil, nofun, nofun⟩, .nil⟩

/-- handles are given out from the next one on -/
theorem le_of_mem_handles {steps : List Step} (h : handle ∈ (b.answers steps).filterMap Reply.handle?) :
    b.nextHandle ≤ handle := by
  induction steps generalizing b with
  | nil => cases h
  | cons step steps ih =>
    cases step with
    | subscribe filter listener =>
      rcases List.mem_cons.1 h with rfl | h
      · exact Nat.le_refl _
      · exact Nat.le_of_succ_le (ih h)
    | unsubscribe h' =>
      have hle : (b.unsubscribe h').2.nextHandle ≤ handle := ih h
      exact hle
    | dispatch x =>
      have hle : (b.dispatch x).2.nextHandle ≤ handle := ih h
      exact (tells_dispatch b x).nextHandle ▸ hle

/-- **Handles ascend**, so no two are the same and none is given out again. -/
theorem handles_ascend (b : EventBus) (steps : List Step) :
    ((b.answers steps).filterMap Reply.handle?).Pairwise (· < ·) := by
  induction steps generalizing b with
  | nil => exact .nil
  | cons step steps ih =>
    cases step with
    | subscribe filter listener => exact List.pairwise_cons.2 ⟨fun h hm => le_of_mem_handles hm, ih _⟩
    | unsubscribe handle => exact ih _
    | dispatch x => exact ih _

theorem mem_serveAll (hs : s ∈ b.subscriptions) {steps : List Step} (h : ∀ step ∈ steps, ¬step.removes s.handle) :
    s ∈ (b.serveAll steps).subscriptions := by
  induction steps generalizing b with
  | nil => exact hs
  | cons step steps ih =>
    exact ih (mem_serve hs (h step List.mem_cons_self)) fun step' h' => h step' (List.mem_cons_of_mem step h')

/-- **The subscriptions of a bus** are those that were made and not taken off. -/
theorem mem_subscriptions_iff (steps : List Step) (s : Subscription) :
    s ∈ (serveAll {} steps).subscriptions ↔ Current steps s := by
  constructor
  · intro hs
    induction steps using List.reverseRecOn with
    | nil => cases hs
    | append_singleton steps step ih =>
      rw [serveAll_append] at hs
      rcases mem_serve_cases hs with ⟨hs, hstep⟩ | ⟨rfl, hr⟩
      · obtain ⟨before, after, rfl, hr, hafter⟩ := ih hs
        refine ⟨before, after ++ [step], by simp, hr, fun step' h => ?_⟩
        rcases List.mem_append.1 h with h | h
        · exact hafter step' h
        · exact List.mem_singleton.1 h ▸ hstep
      · exact ⟨steps, [], rfl, hr, nofun⟩
  · rintro ⟨before, after, rfl, hr, hafter⟩
    rw [serveAll_append, serveAll_cons]
    have hnew : (serveAll {} before).nextHandle = s.handle := Reply.given.inj hr
    exact mem_serveAll (List.mem_append_right _ (List.mem_singleton.2 (by rw [hnew]))) hafter

theorem Gone.received_serveAll (h : b.Gone handle) (steps : List Step) :
    (b.serveAll steps).received handle = b.received handle := by
  induction steps generalizing b with
  | nil => rfl
  | cons step steps ih => rw [serveAll_cons, ih (h.serve step), h.received_serve]

/-- **What a subscription receives.** It is told what is dispatched and covered, until its handle is taken off. -/
theorem Ordered.received_serveAll (h : b.Ordered) (hs : s ∈ b.subscriptions) (steps : List Step) :
    (b.serveAll steps).received s.handle = b.received s.handle ++
      (dispatched (steps.takeWhile fun step => !step.removes s.handle)).filter (s.filter.covers ·.key) := by
  induction steps generalizing b with
  | nil => exact (List.append_nil _).symm
  | cons step steps ih =>
    rw [serveAll_cons]
    have hone := h.toSound.received_serve hs step
    by_cases hstep : step.removes s.handle
    · have hgone : (b.serve step).2.Gone s.handle := Step.eq_unsubscribe hstep ▸ h.toSound.gone_unsubscribe hs
      have hnone : step.event? = none := by rw [Step.eq_unsubscribe hstep]; rfl
      rw [hgone.received_serveAll, hone, hnone, List.takeWhile_cons_of_neg (by simp [hstep])]
      rfl
    · rw [ih (h.serve step) (mem_serve hs hstep), hone, List.takeWhile_cons_of_pos (by simp [hstep]), dispatched_cons,
        List.filter_append, List.append_assoc]

/-- **Delivery over a whole life.** Take any steps on a new bus. The handles that were given out ascend. What is on the
bus are the current subscriptions, in the order of their handles. A listener that is subscribed then receives, whatever
steps follow, the events that are dispatched before its handle is taken off and that its filter covers, each once and
in order. The next event is told to the current subscriptions that cover it, in their order, and the answer counts those
whose listener completes. A removal of a handle takes off the one current subscription that has it, or answers that
there is none. -/
theorem delivery_over_a_whole_life (steps : List Step) :
    let b := serveAll {} steps
    ((answers {} steps).filterMap Reply.handle?).Pairwise (· < ·) ∧
      ((∀ s, s ∈ b.subscriptions ↔ Current steps s) ∧ b.subscriptions.Pairwise fun s s' => s.handle < s'.handle) ∧
      (∀ filter listener after, ∃ handle, (b.serve (.subscribe filter listener)).1 = .given handle ∧
        (serveAll {} (steps ++ .subscribe filter listener :: after)).received handle =
          (dispatched (after.takeWhile fun step => !step.removes handle)).filter (filter.covers ·.key)) ∧
      (∀ x, ∃ called : List Subscription, (∀ s, s ∈ called ↔ Current steps s ∧ s.filter.covers x.key) ∧
        called.Pairwise (fun s s' => s.handle < s'.handle) ∧
        (b.serve (.dispatch x)).1 =
          .completed (called.countP fun s => s.listener (b.received s.handle) x = .completes) ∧
        (b.serve (.dispatch x)).2.calls = b.calls ++ called.map fun s => ⟨s.handle, x⟩) ∧
      ∀ handle,
        (∃ s before after, Current steps s ∧ s.handle = handle ∧ b.subscriptions = before ++ s :: after ∧
          b.serve (.unsubscribe handle) = (.known true, { b with subscriptions := before ++ after })) ∨
        (¬∃ s, Current steps s ∧ s.handle = handle) ∧ b.serve (.unsubscribe handle) = (.known false, b) := by
  intro b
  have hb : b.Ordered := ordered_new.serveAll steps
  have hmem := mem_subscriptions_iff steps
  refine ⟨handles_ascend {} steps, ⟨hmem, hb.ascending⟩, fun filter listener after => ?_, fun x => ?_, fun handle => ?_⟩
  · let s : Subscription := ⟨b.nextHandle, filter, listener⟩
    have hs : s ∈ (b.serve (.subscribe filter listener)).2.subscriptions :=
      List.mem_append_right _ (List.mem_singleton_self s)
    have hnew : (b.serve (.subscribe filter listener)).2.received s.handle = [] := hb.toSound.received_of_new
    refine ⟨s.handle, rfl, ?_⟩
    rw [serveAll_append, serveAll_cons, (hb.serve _).received_serveAll hs, hnew, List.nil_append]
  · refine ⟨b.subscriptions.filter (·.filter.covers x.key), fun s => ?_, hb.ascending.filter _, ?_, ?_⟩
    · rw [List.mem_filter, hmem]
    · exact congrArg Reply.completed (deliverAll_fst x (hb.distinct.filter _) b)
    · exact (tells_dispatch b x).calls.trans (by rw [List.flatMap_singleton, callsFor])
  · by_cases hex : ∃ s, Current steps s ∧ s.handle = handle
    · obtain ⟨s, hs, rfl⟩ := hex
      obtain ⟨before, after, hl, hun⟩ := hb.toSound.unsubscribe_of_mem ((hmem s).2 hs)
      refine .inl ⟨s, before, after, hs, rfl, hl, ?_⟩
      rw [serve, hun]
    · refine .inr ⟨hex, ?_⟩
      rw [serve, unsubscribe_of_absent fun s hs he => hex ⟨s, (hmem s).1 hs, he⟩]

/-- one listener fails, one panics and one completes; the second is taken off between two events -/
example :
    let x : Event := ⟨⟨"env", "a"⟩, .set, some "1", .user⟩
    let steps : List Step :=
      [.subscribe .all fun _ _ => .fails, .subscribe (.scope "env") fun _ _ => .panics,
        .subscribe (.key x.key) fun _ _ => .completes, .dispatch x, .unsubscribe 1, .unsubscribe 1, .dispatch x,
        .subscribe (.scope "query") fun _ _ => .completes]
    answers {} steps = [.given 0, .given 1, .given 2, .completed 1, .known true, .known false, .completed 1, .given 3] ∧
      (serveAll {} steps).calls = [⟨0, x⟩, ⟨1, x⟩, ⟨2, x⟩, ⟨0, x⟩, ⟨2, x⟩] := by
  decide

end EventBus
end ScopedStore
