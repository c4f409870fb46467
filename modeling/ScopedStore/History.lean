/-
The history of a store: numbered entries, one for every recorded change.

Entries are only ever appended. With a cap, the oldest entries are dropped first; numbering goes on regardless.
`History.jsonLines` writes the retained entries as one JSON object a line, and `Entry.ofJson?` reads one back.
-/
import ScopedStore.Key
import ScopedStore.Json.Read

namespace ScopedStore

/-- who made a change -/
inductive Source where
  /-- a direct call -/
  | user
  /-- a script -/
  | query
  /-- a bulk import -/
  | system
  deriving DecidableEq

namespace Source

def name : Source → String
  | .user => "user"
  | .query => "query"
  | .system => "system"

def ofName? (s : String) : Option Source := [Source.user, .query, .system].find? (·.name = s)

end Source

/-- what kind of change was made -/
inductive Operation where
  | set
  | clear
  | increment
  | decrement
  | listAppend
  | setAppend
  | imported
  | restore
  deriving DecidableEq

namespace Operation

def all : List Operation := [.set, .clear, .increment, .decrement, .listAppend, .setAppend, .imported, .restore]

def name : Operation → String
  | .set => "set"
  | .clear => "clear"
  | .increment => "increment"
  | .decrement => "decrement"
  | .listAppend => "list_append"
  | .setAppend => "set_append"
  | .imported => "import"
  | .restore => "restore"

def ofName? (s : String) : Option Operation := all.find? (·.name = s)

end Operation

/-- who makes a change, and when, in milliseconds -/
structure Origin where
  source : Source
  time : Nat
  deriving DecidableEq

/-- a change of one key, or of the whole mapping when there is no key -/
structure Change where
  operation : Operation
  key : Option Key
  prior : Option String
  new : Option String
  deriving DecidableEq

/-- a recorded change -/
structure Entry where
  sequence : Nat
  time : Nat
  operation : Operation
  key : Option Key
  prior : Option String
  new : Option String
  source : Source
  deriving DecidableEq

namespace Entry

/-- an entry as a JSON object -/
def toJson (e : Entry) : Json :=
  .object
    [("sequence", .ofNat e.sequence), ("timestamp_ms", .ofNat e.time), ("operation", .string e.operation.name),
      ("key", .ofOption (e.key.map Key.text)), ("prior_value", .ofOption e.prior), ("new_value", .ofOption e.new),
      ("source", .string e.source.name)]

/-- an unsigned 64-bit integer -/
def count? : Json → Option Nat
  | .number (.integer i) => if 0 ≤ i ∧ i < UInt64.size then some i.toNat else none
  | _ => none

/-- a text that may be missing -/
def optional? : Option Json → Option (Option String)
  | none => some none
  | some .null => some none
  | some (.string s) => some (some s)
  | _ => none

/-- the entry that a JSON object stands for -/
def ofJson? : Json → Option Entry
  | .object members => do
    let sequence ← (members.lookup "sequence").bind count?
    let time ← (members.lookup "timestamp_ms").bind count?
    let operation ← match members.lookup "operation" with
      | some (.string s) => Operation.ofName? s
      | _ => none
    let key ← match ← optional? (members.lookup "key") with
      | none => some none
      | some raw => (Key.split raw).toOption.map some
    let prior ← optional? (members.lookup "prior_value")
    let new ← optional? (members.lookup "new_value")
    let source ← match members.lookup "source" with
      | some (.string s) => Source.ofName? s
      | _ => none
    return ⟨sequence, time, operation, key, prior, new, source⟩
  | _ => none

/-- the entry that a line of text stands for -/
def read (line : String) : Option Entry := (Json.read line).bind ofJson?

end Entry

/-- the recorded changes; `newest` holds the retained ones, the newest first -/
structure History where
  newest : List Entry := []
  total : Nat := 0
  cap : Option Nat := none

namespace History

/-- the retained entries, the oldest first -/
def entries (h : History) : List Entry := h.newest.reverse

/-- the first `cap` entries of a list that starts with the newest -/
def keep (cap : Option Nat) (newest : List Entry) : List Entry :=
  match cap with
  | some n => newest.take n
  | none => newest

/-- the entry that records a change next -/
def entryOf (h : History) (o : Origin) (c : Change) : Entry :=
  ⟨h.total, o.time, c.operation, c.key, c.prior, c.new, o.source⟩

/-- puts an entry at the end; the oldest ones go when there are more than the cap allows -/
def push (h : History) (x : Entry) : History :=
  { h with newest := keep h.cap (x :: h.newest), total := h.total + 1 }

/-- records a change -/
def append (h : History) (o : Origin) (c : Change) : History := h.push (h.entryOf o c)

/-- the entries from a sequence number on -/
def since (h : History) (sequence : Nat) : List Entry := h.entries.filter (sequence ≤ ·.sequence)

/-- the entries about a key -/
def forKey (h : History) (k : Key) : List Entry := h.entries.filter (·.key = some k)

/-- the last `n` entries -/
def latest (h : History) (n : Nat) : List Entry := h.entries.drop (h.entries.length - n)

/-- how many entries are retained -/
def length (h : History) : Nat := h.newest.length

/-- the retained entries, one JSON object a line -/
def jsonLines (h : History) : String :=
  String.ofList (Text.join '\n' (h.entries.map fun e => e.toJson.write))

end History
end ScopedStore
