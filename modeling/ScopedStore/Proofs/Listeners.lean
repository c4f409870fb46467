/-
Listeners cannot interfere.

Actions that differ in a listener only are the same once no listener is heard (`Engine.SameButListener.deafened`), and
what is seen of an engine through such a view takes in everything but its listeners. Since actions are blind to what the
view leaves out (`Engine.perform_seen`), so are runs (`Engine.run_seen`, `Engine.answers_seen`).

Main result, `listeners_cannot_interfere`: two runs of the same actions, of which listeners do different things, answer the
same, leave the same mapping, history and savepoints, and tell each listener the same events.
-/
import ScopedStore.Proofs.Views

namespace ScopedStore

namespace Engine

/-! ## Runs -/

/-- the answers to actions that are carried out one after the other -/
def answers (e : Engine) : List (Nat × Action) → List (Except StoreError Answer)
  | [] => []
  | (time, a) :: rest => (e.perform time a).1 :: answers (e.perform time a).2 rest

/-- the actions as a view sees them -/
def watched (v : View) (actions : List (Nat × Action)) : List (Nat × Action) :=
  actions.map fun step => (v.clock step.1, step.2.heard v.hear)

variable {v : View} {e : Engine} {clock : Nat → Nat} {l l' : List (Nat × Action)}

theorem run_seen (v : View) (e : Engine) (actions : List (Nat × Action)) :
    (e.seen v).run (watched v actions) = (e.run actions).seen v := by
  induction actions generalizing e with
  | nil => rfl
  | cons step actions ih =>
    obtain ⟨time, a⟩ := step
    rw [watched, List.map_cons, run_cons, run_cons, perform_seen]
    exact ih (e.perform time a).2

theorem answers_seen (v : View) (e : Engine) (actions : List (Nat × Action)) :
    (e.seen v).answers (watched v actions) = (e.answers actions).map (Except.map (Answer.clocked v.clock)) := by
  induction actions generalizing e with
  | nil => rfl
  | cons step actions ih =>
    obtain ⟨time, a⟩ := step
    rw [watched, List.map_cons, answers, answers, perform_seen, List.map_cons]
    exact congrArg (_ :: ·) (ih (e.perform time a).2)

/-! ## Different listeners -/

/-- the same action, or two that subscribe different listeners with the same filter -/
inductive SameButListener : Action → Action → Prop where
  | refl (a : Action) : SameButListener a a
  | subscribe (filter : EventFilter) (listener listener' : Listener) :
      SameButListener (.subscribe filter listener) (.subscribe filter listener')

/-- the view that shows all listeners as completing their calls -/
def deaf (clock : Nat → Nat) : View := ⟨clock, fun _ _ _ => .completes⟩

theorem SameButListener.deafened {a a' : Action} (h : SameButListener a a') :
    a.heard (deaf clock).hear = a'.heard (deaf clock).hear := by
  cases h <;> rfl

theorem watched_deaf (h : List.Forall₂ (fun x y => clock x.1 = clock y.1 ∧ SameButListener x.2 y.2) l l') :
    watched (deaf clock) l = watched (deaf clock) l' := by
  induction h with
  | nil => rfl
  | cons hstep _ ih =>
    obtain ⟨htime, haction⟩ := hstep
    simp only [watched, List.map_cons] at ih ⊢
    rw [haction.deafened, ih]
    exact congrArg (fun time => (time, _) :: _) htime

/-- two engines have the same in them, up to what their listeners do and to what a clock does not tell apart -/
structure SameButListeners (clock : Nat → Nat) (e e' : Engine) : Prop where
  mapping : e.store.data = e'.store.data
  history : e.store.history.clocked clock = e'.store.history.clocked clock
  savepoints : e.savepoints.clocked clock = e'.savepoints.clocked clock
  /-- the listeners were called in the same order -/
  calls : e.store.bus.calls = e'.store.bus.calls
  received : ∀ handle, e.store.bus.received handle = e'.store.bus.received handle

theorem sameButListeners_of_seen {e' : Engine} (h : e.seen (deaf clock) = e'.seen (deaf clock)) :
    SameButListeners clock e e' := by
  have hmapping : (e.seen (deaf clock)).store.data = (e'.seen (deaf clock)).store.data := by rw [h]
  have hhistory : (e.seen (deaf clock)).store.history = (e'.seen (deaf clock)).store.history := by rw [h]
  have hsavepoints : (e.seen (deaf clock)).savepoints = (e'.seen (deaf clock)).savepoints := by rw [h]
  have hcalls : (e.seen (deaf clock)).store.bus.calls = (e'.seen (deaf clock)).store.bus.calls := by rw [h]
  refine ⟨hmapping, hhistory, hsavepoints, hcalls, fun handle => ?_⟩
  exact congrArg (fun calls => (calls.filter (·.handle = handle)).map Call.event) hcalls

end Engine

open Engine

/-- **Listeners cannot interfere.** Two runs may start from the same engine and go through the same actions, at times that
a clock does not tell apart, but the listeners that are subscribed may do different things: complete, fail or panic, each
time as they please, in view of all that they were told before. Then both runs give the same answers, reports included,
leave the same mapping, the same history and the same savepoints, up to times that the clock does not tell apart, and tell
the same events to each listener. -/
theorem listeners_cannot_interfere (clock : Nat → Nat) (e : Engine) {l l' : List (Nat × Action)}
    (h : List.Forall₂ (fun x y => clock x.1 = clock y.1 ∧ SameButListener x.2 y.2) l l') :
    (e.answers l).map (Except.map (Answer.clocked clock)) = (e.answers l').map (Except.map (Answer.clocked clock)) ∧
      SameButListeners clock (e.run l) (e.run l') := by
  have hwatched := watched_deaf h
  constructor
  · have hanswers := answers_seen (deaf clock) e l
    rw [hwatched, answers_seen] at hanswers
    exact hanswers.symm
  · have hrun := run_seen (deaf clock) e l
    rw [hwatched, run_seen] at hrun
    exact sameButListeners_of_seen hrun.symm

/-- a bulk merge, a clear of everything, a script and a restore, under the eyes of two listeners -/
def watchedActions (first second : Listener) : List (Nat × Action) :=
  [(1, .subscribe .all first), (2, .subscribe (.scope "env") second),
    (3, .appendMap [("env:a", "1"), ("env:b", "2")] .overwrite), (4, .save {}), (5, .clearWhere fun _ => true),
    (6, .runScript "set env:a 7; inc env:a 1" .abortRemaining), (7, .restore "#0")]

/-- listeners that complete, and listeners of which one panics and the other fails once it was told something -/
theorem sample_listeners_cannot_interfere :
    let calm := watchedActions (fun _ _ => .completes) (fun _ _ => .completes)
    let wild := watchedActions (fun _ _ => .panics) (fun before _ => if before = [] then .completes else .fails)
    ((sample.run wild).store.bus.received 1).map (·.operation) =
        [.imported, .imported, .clear, .clear, .set, .increment, .restore, .restore] ∧
      (sample.run wild).store.data[(⟨"env", "a"⟩ : Key)]? = some "1" ∧ SameButListeners id (sample.run calm) (sample.run wild) ∧
        (sample.answers calm).map (Except.map (Answer.clocked id)) = (sample.answers wild).map (Except.map (Answer.clocked id)) := by
  intro calm wild
  have hsteps : List.Forall₂ (fun x y => id x.1 = id y.1 ∧ SameButListener x.2 y.2) calm wild := by
    refine .cons ⟨rfl, .subscribe ..⟩ (.cons ⟨rfl, .subscribe ..⟩ (List.forall₂_same.2 fun x _ => ⟨rfl, .refl x.2⟩))
  obtain ⟨hanswers, hsame⟩ := listeners_cannot_interfere id sample hsteps
  exact ⟨by decide +kernel, by decide +kernel, hsame, hanswers⟩

end ScopedStore
