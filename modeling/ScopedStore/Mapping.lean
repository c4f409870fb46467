/-
Mappings from keys to raw texts, and the differences between two of them.

`Diff.between old new` lists what was added, removed and changed, each in key order. `Mapping.changes old new` lists
the keys that differ together with their new values, as one sequence: it goes through the new mapping, then through the
old one, and sorts what it has found by key.
-/
import ScopedStore.Key

namespace ScopedStore

/-- keys with their raw texts, in key order -/
abbrev Mapping := Std.ExtTreeMap Key String

namespace Mapping

/-- the mapping under the texts of its keys, in the order of those texts -/
def byText (m : Mapping) : Std.ExtTreeMap String String :=
  m.toList.foldl (fun acc (k, v) => acc.insert k.text v) ∅

/-- a value set or, with nothing, removed -/
def assign (m : Mapping) (k : Key) : Option String → Mapping
  | some v => m.insert k v
  | none => m.erase k

/-- a key and its new value, put before the first key that does not come earlier -/
def insertByKey (x : Key × Option String) : List (Key × Option String) → List (Key × Option String)
  | [] => [x]
  | y :: rest => if (compare x.1 y.1).isLE then x :: y :: rest else y :: insertByKey x rest

/-- in key order; what stands under one key keeps its order -/
def sortByKey (l : List (Key × Option String)) : List (Key × Option String) := l.foldr insertByKey []

/-- the first pass: the keys of `new` that do not have their value in `old` -/
def updated (old new : Mapping) : List (Key × Option String) :=
  new.toList.filterMap fun (k, v) => if old[k]? ≠ some v then some (k, some v) else none

/-- the second pass: the keys of `old` that are not in `new` -/
def dropped (old new : Mapping) : List (Key × Option String) :=
  old.keys.filterMap fun k => if !new.contains k then some (k, none) else none

/-- every key that has a different value in `new`, with that value, in key order -/
def changes (old new : Mapping) : List (Key × Option String) := sortByKey (updated old new ++ dropped old new)

end Mapping

/-- a key that has one value before and another one after -/
structure ValueChange where
  key : Key
  oldValue : String
  newValue : String
  deriving DecidableEq

/-- the differences from one mapping to another -/
structure Diff where
  added : List (Key × String)
  removed : List (Key × String)
  changed : List ValueChange
  deriving DecidableEq

namespace Diff

/-- the change of one value, if it is one -/
def change? (new : Mapping) (k : Key) (oldValue : String) : Option ValueChange :=
  match new[k]? with
  | some newValue => if newValue = oldValue then none else some ⟨k, oldValue, newValue⟩
  | none => none

/-- the differences from `old` to `new` -/
def between (old new : Mapping) : Diff where
  added := new.toList.filter fun (k, _) => !old.contains k
  removed := old.toList.filter fun (k, _) => !new.contains k
  changed := old.toList.filterMap fun (k, v) => change? new k v

def isEmpty (d : Diff) : Bool := d.added.isEmpty && d.removed.isEmpty && d.changed.isEmpty

/-- how many keys differ -/
def changeCount (d : Diff) : Nat := d.added.length + d.removed.length + d.changed.length

/-- the differences in one line -/
def summary (d : Diff) : String :=
  let part (n : Nat) (what : String) : List String := if n = 0 then [] else [s!"{n} key(s) {what}"]
  let parts := part d.added.length "added" ++ part d.removed.length "removed" ++ part d.changed.length "changed"
  if parts.isEmpty then "no changes" else ", ".intercalate parts

end Diff
end ScopedStore
