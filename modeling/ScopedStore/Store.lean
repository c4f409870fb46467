/-
The store: a mapping from keys to raw texts, with its history and its listeners.

Operations are computations on the store; one that fails leaves the store as far as it has come. A change of a key
goes through `record`, which enters it in the history and tells it to the listeners. `restoreMapping` replaces the whole
mapping; it is entered once, and told to the listeners key by key. Changes are attributed to the store's source, which
`asSource` swaps for the time of a computation.

An operation gets its time as an argument, and all that it enters has this one time; a clock that is read anew for each
entry may give later ones. Nothing reads a time back: no operation, listener or answer is decided by one, so that other
readings would change the times of entries and nothing else.
-/
import ScopedStore.Attempt
import ScopedStore.Event
import ScopedStore.Mapping

namespace ScopedStore

/-- what a bulk merge does with keys that already have a value -/
inductive ConflictPolicy where
  | keepExisting
  | overwrite
  | errorOnConflict
  deriving DecidableEq

/-- how many entries of a bulk merge were written, and how many gave way to existing values -/
structure MergeSummary where
  written : Nat
  kept : Nat
  deriving DecidableEq

/-- a store under a configuration; its changes are attributed to `source` -/
structure Store where
  config : Config
  keys : KeyRules
  data : Mapping := ∅
  history : History := {}
  bus : EventBus := {}
  source : Source := .user

namespace Store

/-- an empty store; the configuration must be consistent -/
def create (config : Config) : Except ConfigError Store := do
  config.validate
  let keys ← config.keyRules
  return { config, keys, history := { cap := config.historyMaxEntries } }

/-- an argument as an accepted key -/
def resolve (s : Store) (k : KeyRef) : Except StoreError Key := (s.keys.resolve k).mapError .key

/-- the notation of lists and sets -/
def compound (s : Store) : CompoundNotation := s.config.compoundNotation

/-! ## Reading -/

/-- the raw text of a key -/
def getRaw (s : Store) (k : KeyRef) : Except StoreError (Option String) := do
  return s.data[← s.resolve k]?

/-- a typed read; absent keys have no value -/
def getAs (s : Store) (type : ScalarType) (k : KeyRef) : Except StoreError (Option Decoded) := do
  match ← s.getRaw k with
  | some raw => return some (← (s.config.scalarCodec.decode type raw).mapError .coercion)
  | none => return none

/-- the list in a raw text, which may be absent -/
def listOf (s : Store) : Option String → Except StoreError (List String)
  | some raw => (s.compound.decodeList raw).mapError .coercion
  | none => .ok []

/-- the set in a raw text, which may be absent -/
def setOf (s : Store) : Option String → Except StoreError (List String)
  | some raw => (s.compound.decodeSet raw).mapError .coercion
  | none => .ok []

/-- the list that a key holds -/
def getList (s : Store) (k : KeyRef) : Except StoreError (List String) := do s.listOf (← s.getRaw k)

/-- the set that a key holds -/
def getSet (s : Store) (k : KeyRef) : Except StoreError (List String) := do s.setOf (← s.getRaw k)

/-- the keys of a scope -/
def keysInScope (s : Store) (scope : String) : List Key := s.data.keys.filter (·.scope = scope)

/-- the mapping under the texts of its keys, in the order of those texts -/
def exportRaw (s : Store) : List (String × String) := s.data.byText.toList

/-- the entries about a key -/
def historyFor (s : Store) (k : KeyRef) : Except StoreError (List Entry) := do
  return s.history.forKey (← s.resolve k)

/-! ## Changing -/

open Attempt

/-- enters a change of one key and tells it to the listeners -/
def record (s : Store) (time : Nat) (operation : Operation) (k : Key) (prior new : Option String) : Store :=
  { s with
    history := s.history.append ⟨s.source, time⟩ ⟨operation, some k, prior, new⟩
    bus := (s.bus.dispatch ⟨k, operation, new, s.source⟩).2 }

/-- gives a key a new raw text -/
def write (s : Store) (time : Nat) (operation : Operation) (k : Key) (raw : String) : Store :=
  { s with data := s.data.insert k raw }.record time operation k s.data[k]? (some raw)

/-- takes out a key that has the value `prior` -/
def remove (s : Store) (time : Nat) (k : Key) (prior : String) : Store :=
  { s with data := s.data.erase k }.record time .clear k (some prior) none

/-- enters that a key was cleared which was not there; the listeners are not told -/
def noteAbsent (s : Store) (time : Nat) (k : Key) : Store :=
  { s with history := s.history.append ⟨s.source, time⟩ ⟨.clear, some k, none, none⟩ }

/-- attributes later changes to another source, and gives the one before -/
def swapSource (s : Store) (source : Source) : Source × Store := (s.source, { s with source })

/-- carries out a computation as another source; the source before is put back, also after a failure -/
def asSource {α : Type} (source : Source) (x : Attempt Store α) : Attempt Store α := fun s =>
  let (previous, s) := s.swapSource source
  let (result, s) := x s
  (result, (s.swapSource previous).2)

/-- gives a key the raw text that `f` works out for it, and that text -/
def revise (time : Nat) (operation : Operation) (k : KeyRef) (f : Store → Key → Except StoreError String) :
    Attempt Store String := do
  let k ← look (·.resolve k)
  let raw ← look (f · k)
  change (·.write time operation k raw)
  return raw

/-- gives a key a raw text -/
def set (time : Nat) (k : KeyRef) (raw : String) : Attempt Store Unit := do
  let _ ← revise time .set k fun _ _ => .ok raw

/-- gives a key a typed value -/
def setAs (time : Nat) (k : KeyRef) (v : Scalar) : Attempt Store Unit := do
  let raw ← look fun s => .ok (s.config.scalarCodec.encode v)
  set time k raw

/-- gives a key a list -/
def setList (time : Nat) (k : KeyRef) (items : List String) : Attempt Store Unit := do
  let k ← look (·.resolve k)
  let raw ← look fun s => (s.compound.encodeList items).mapError .coercion
  set time (.key k) raw

/-- gives a key a set -/
def setSet (time : Nat) (k : KeyRef) (items : List String) : Attempt Store Unit := do
  let k ← look (·.resolve k)
  let raw ← look fun s => (s.compound.encodeSet items).mapError .coercion
  set time (.key k) raw

/-- takes out a key, if it is there, and gives the value that it had; an absent key is noted only on request -/
def clearKey (s : Store) (time : Nat) (k : Key) : Option String × Store :=
  match s.data[k]? with
  | some prior => (some prior, s.remove time k prior)
  | none => (none, if s.config.recordNoopClears then s.noteAbsent time k else s)

/-- takes out a key and gives the value that it had -/
def clear (time : Nat) (k : KeyRef) : Attempt Store (Option String) := do
  let k ← look (·.resolve k)
  exchange (·.clearKey time k)

/-- takes out the given keys, one after the other, as far as they are there -/
def removeAll (s : Store) (time : Nat) (ks : List Key) : Store :=
  ks.foldl (fun s k =>
    match s.data[k]? with
    | some prior => s.remove time k prior
    | none => s) s

/-- takes out every key that the predicate holds of, and counts them -/
def clearWhere (s : Store) (time : Nat) (p : Key → Bool) : Nat × Store :=
  let doomed := s.data.keys.filter p
  (doomed.length, s.removeAll time doomed)

/-- takes out every key of an allowed scope -/
def clearScope (time : Nat) (scope : String) : Attempt Store Nat := do
  look fun s => if s.keys.allows scope then .ok () else .error (.key (.unknownScope scope))
  exchange (·.clearWhere time (·.scope = scope))

/-- sorts out the entries of a merge: those to be written, in order, and how many give way; `planned` holds the keys
that already have a value or will have one -/
def planMerge (s : Store) (policy : ConflictPolicy) :
    Std.ExtTreeSet Key → List (String × String) → Except StoreError (List (Key × String) × Nat)
  | _, [] => .ok ([], 0)
  | planned, (raw, value) :: rest => do
    let k ← (s.keys.parse raw).mapError .key
    let occupied := s.data.contains k || planned.contains k
    match occupied, policy with
    | true, .errorOnConflict => throw (.conflict k.text)
    | true, .keepExisting =>
      let (plan, kept) ← s.planMerge policy planned rest
      return (plan, kept + 1)
    | _, _ =>
      let (plan, kept) ← s.planMerge policy (planned.insert k) rest
      return ((k, value) :: plan, kept)

/-- writes the entries of a merge, in order -/
def writeAll (s : Store) (time : Nat) (plan : List (Key × String)) : Store :=
  plan.foldl (fun s (k, value) => s.write time .imported k value) s

/-- merges entries into the mapping; all of them are sorted out before the first one is written -/
def appendMap (time : Nat) (entries : List (String × String)) (policy : ConflictPolicy) :
    Attempt Store MergeSummary := do
  let (plan, kept) ← look (·.planMerge policy ∅ entries)
  change (·.writeAll time plan)
  return ⟨plan.length, kept⟩

/-- merges entries as the system, whoever asked for it -/
def importRaw (time : Nat) (entries : List (String × String)) (policy : ConflictPolicy) :
    Attempt Store MergeSummary :=
  asSource .system (appendMap time entries policy)

/-- adds to the number that a key holds; absent keys count as zero -/
def transform (time : Nat) (operation : Operation) (k : KeyRef) (delta : Number) : Attempt Store String :=
  revise time operation k fun s k => (addToText (s.data.getD k "0") delta).mapError .coercion

/-- adds an amount to a number -/
def increment (time : Nat) (k : KeyRef) (amount : Number) : Attempt Store String :=
  transform time .increment k amount

/-- takes an amount from a number; an amount without an opposite is refused before the key is looked at -/
def decrement (time : Nat) (k : KeyRef) (amount : Number) : Attempt Store String :=
  match amount.neg? with
  | some delta => transform time .decrement k delta
  | none => fail (.coercion (.overflow "0" ("-" ++ amount.render)))

/-- adds an item to a list and gives its new raw text -/
def listAppend (time : Nat) (k : KeyRef) (item : String) : Attempt Store String :=
  revise time .listAppend k fun s k => do
    let items ← s.listOf s.data[k]?
    (s.compound.encodeList (items ++ [item])).mapError .coercion

/-- adds an item to a set, unless it is there, and gives its new raw text -/
def setAppend (time : Nat) (k : KeyRef) (item : String) : Attempt Store String :=
  revise time .setAppend k fun s k => do
    let items ← s.setOf s.data[k]?
    (s.compound.encodeSet (items ++ [item])).mapError .coercion

/-- tells the listeners one key's new value after a restore -/
def announce (source : Source) (bus : EventBus) (change : Key × Option String) : EventBus :=
  (bus.dispatch ⟨change.1, .restore, change.2, source⟩).2

/-- replaces the whole mapping and counts the keys whose value changed -/
def restoreMapping (s : Store) (time : Nat) (mapping : Mapping) : Nat × Store :=
  let changes := Mapping.changes s.data mapping
  (changes.length,
    { s with
      data := mapping
      history := s.history.append ⟨s.source, time⟩ ⟨.restore, none, none, none⟩
      bus := changes.foldl (announce s.source) s.bus })

/-- adds a listener and gives its handle -/
def subscribe (s : Store) (filter : EventFilter) (listener : Listener) : Nat × Store :=
  let (handle, bus) := s.bus.subscribe filter listener
  (handle, { s with bus })

/-- removes a listener; the answer tells whether the handle was known -/
def unsubscribe (s : Store) (handle : Nat) : Bool × Store :=
  let (known, bus) := s.bus.unsubscribe handle
  (known, { s with bus })

end Store
end ScopedStore
