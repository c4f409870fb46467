/-
Events about changes, and the listeners that receive them.

A bus calls every listener whose filter matches, in the order of subscription, and goes on when one of them fails. What
a listener answers can depend on all events it has received; it is counted and otherwise ignored. The bus keeps a record
of its calls.
-/
import ScopedStore.History

namespace ScopedStore

/-- a change of one key, as it is told to listeners; there is no new value when the key was removed -/
structure Event where
  key : Key
  operation : Operation
  new : Option String
  source : Source
  deriving DecidableEq

/-- which changes a listener is told -/
inductive EventFilter where
  | all
  | scope (scope : String)
  | key (key : Key)
  deriving DecidableEq

def EventFilter.covers : EventFilter → Key → Bool
  | .all, _ => true
  | .scope s, k => k.scope = s
  | .key wanted, k => wanted = k

/-- how a listener's call ends -/
inductive Reaction where
  | completes
  | fails
  | panics
  deriving DecidableEq

/-- a listener, by what it does with an event after the events it received before, the oldest first -/
abbrev Listener := List Event → Event → Reaction

/-- a listener on the bus -/
structure Subscription where
  handle : Nat
  filter : EventFilter
  listener : Listener

/-- a call of a listener -/
structure Call where
  handle : Nat
  event : Event
  deriving DecidableEq

/-- the listeners of a store; `newestCalls` is the record of calls, the newest first -/
structure EventBus where
  subscriptions : List Subscription := []
  nextHandle : Nat := 0
  newestCalls : List Call := []

namespace EventBus

/-- the record of calls, the oldest first -/
def calls (b : EventBus) : List Call := b.newestCalls.reverse

/-- the events that the subscription with that handle received, the oldest first -/
def received (b : EventBus) (handle : Nat) : List Event :=
  (b.calls.filter (·.handle = handle)).map Call.event

/-- adds a listener and gives its handle -/
def subscribe (b : EventBus) (filter : EventFilter) (listener : Listener) : Nat × EventBus :=
  (b.nextHandle,
    { b with
      subscriptions := b.subscriptions ++ [⟨b.nextHandle, filter, listener⟩]
      nextHandle := b.nextHandle + 1 })

/-- removes a listener; the answer tells whether the handle was known -/
def unsubscribe (b : EventBus) (handle : Nat) : Bool × EventBus :=
  (b.subscriptions.any (·.handle = handle),
    { b with subscriptions := b.subscriptions.filter (·.handle ≠ handle) })

/-- tells an event to one listener; the answer tells whether its call completed -/
def deliver (b : EventBus) (e : Event) (s : Subscription) : Bool × EventBus :=
  (s.listener (b.received s.handle) e = .completes, { b with newestCalls := ⟨s.handle, e⟩ :: b.newestCalls })

/-- tells an event to the listeners given, one after the other; counts the calls that completed -/
def deliverAll (e : Event) : List Subscription → EventBus → Nat × EventBus
  | [], b => (0, b)
  | s :: rest, b =>
    let (completed, b) := b.deliver e s
    let (count, b) := deliverAll e rest b
    ((if completed then 1 else 0) + count, b)

/-- tells an event to every listener whose filter covers its key; counts the calls that completed -/
def dispatch (b : EventBus) (e : Event) : Nat × EventBus :=
  deliverAll e (b.subscriptions.filter (·.filter.covers e.key)) b

/-- the bus in one line -/
def summary (b : EventBus) : String :=
  s!"EventBus \x7b subscriptions: {b.subscriptions.length}, next_handle: {b.nextHandle} \x7d"

end EventBus
end ScopedStore
