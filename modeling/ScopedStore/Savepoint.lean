/-
Savepoints: labelled copies of a mapping, kept in the order of their creation.

Manual savepoints stay until they are removed. Automatic ones are bounded by a policy: at capacity the oldest automatic
one makes room, or, without pruning, no new one is made.
-/
import ScopedStore.Config.Basic
import ScopedStore.History
import ScopedStore.Mapping

namespace ScopedStore

/-- whether a savepoint was asked for or made before a script -/
inductive SavepointKind where
  | manual
  | automatic
  deriving DecidableEq

def SavepointKind.name : SavepointKind → String
  | .manual => "manual"
  | .automatic => "automatic"

/-- what is known of a savepoint beside its mapping -/
structure SavepointInfo where
  id : String
  label : Option String
  time : Nat
  kind : SavepointKind
  source : Source
  metadata : Std.ExtTreeMap String String
  keyCount : Nat

/-- a savepoint with the mapping it holds -/
structure Savepoint where
  info : SavepointInfo
  snapshot : Mapping

/-- what a manual savepoint is given -/
structure SaveOptions where
  label : Option String := none
  metadata : Std.ExtTreeMap String String := ∅
  source : Option Source := none

/-- the label of automatic savepoints -/
def automaticLabel : String := "before query"

/-- the id `#n`, for the savepoint that was created after `n` others -/
def SavepointInfo.numberedId (n : Nat) : String := "#" ++ n.repr

/-- the live savepoints in creation order, and how many were ever created; `ids` gives one id after the other -/
structure Savepoints where
  policy : AutoSavepointPolicy
  ids : Nat → String := SavepointInfo.numberedId
  live : List Savepoint := []
  created : Nat := 0

namespace Savepoints

def isAutomatic (s : Savepoint) : Bool := s.info.kind = .automatic

/-- how many live savepoints are automatic -/
def automaticCount (s : Savepoints) : Nat := s.live.countP isAutomatic

/-- adds a savepoint and gives its id -/
def push (s : Savepoints) (snapshot : Mapping) (kind : SavepointKind) (source : Source) (label : Option String)
    (metadata : Std.ExtTreeMap String String) (time : Nat) : String × Savepoints :=
  let id := s.ids s.created
  (id,
    { s with
      live := s.live ++ [⟨⟨id, label, time, kind, source, metadata, snapshot.size⟩, snapshot⟩]
      created := s.created + 1 })

/-- adds a manual savepoint -/
def createManual (s : Savepoints) (snapshot : Mapping) (options : SaveOptions) (time : Nat) : String × Savepoints :=
  s.push snapshot .manual (options.source.getD .user) options.label options.metadata time

/-- drops the oldest automatic savepoints until fewer than `max` are left -/
def evictTo (max : Nat) (live : List Savepoint) : List Savepoint :=
  (List.range live.length).foldl
    (fun live _ => if max ≤ live.countP isAutomatic then live.eraseP isAutomatic else live) live

/-- adds an automatic savepoint if the policy allows one -/
def createAutomatic (s : Savepoints) (snapshot : Mapping) (time : Nat) : Option String × Savepoints :=
  if !s.policy.enabled || s.policy.maxCount = 0 then (none, s)
  else if s.policy.maxCount ≤ s.automaticCount ∧ !s.policy.pruneOldest then (none, s)
  else
    let (id, s) := { s with live := evictTo s.policy.maxCount s.live }.push snapshot .automatic .query
      (some automaticLabel) ∅ time
    (some id, s)

/-- the live savepoint with that id -/
def get? (s : Savepoints) (id : String) : Option Savepoint := s.live.find? (·.info.id = id)

/-- takes out the savepoint with that id -/
def remove (s : Savepoints) (id : String) : Option (Savepoint × Savepoints) :=
  (s.get? id).map fun found => (found, { s with live := s.live.eraseP (·.info.id = id) })

end Savepoints
end ScopedStore
