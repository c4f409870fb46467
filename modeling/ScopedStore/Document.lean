/-
Documents: trees of scalars, sequences and mappings, whatever notation they were written in.

A scalar carries every reading that its notation allows, so that the one who wants a text, a number or a choice finds
it without knowing the notation. A part may be a reference to another part. `Reading` follows references where
something is read, and no more of them than a budget allows; what nobody reads costs nothing.
`Document.ofJson` is the document of a JSON value.
-/
import ScopedStore.Number.Basic
import ScopedStore.Json.Basic

namespace ScopedStore

/-- the kind that a scalar has when nothing in particular is wanted -/
inductive LeafKind where
  | null
  | bool
  /-- a whole number that unsigned 64 bits hold -/
  | natural
  /-- any other number -/
  | number
  | text
  /-- none of these: such a scalar can stand only where a reading of it is wanted, or where nothing is read -/
  | unfit
  deriving DecidableEq

/-- a scalar with its readings -/
structure Leaf where
  kind : LeafKind
  /-- where a text is wanted -/
  text : Option String := none
  /-- where one of several names is wanted -/
  choice : Option String := none
  bool : Option Bool := none
  /-- where a signed 64-bit integer is wanted -/
  int : Option Int64 := none
  /-- where an unsigned 64-bit integer is wanted -/
  count : Option Nat := none
  double : Option Double := none
  /-- where something is optional: whether it is there -/
  isGiven : Option Bool := some true
  /-- empty, where a collection is wanted -/
  isEmpty : Bool := false

/-- a document -/
inductive Document where
  | leaf (l : Leaf)
  /-- the items of a positional sequence may stand for the parts of a record, in the order of their names -/
  | sequence (positional : Bool) (items : List Document)
  /-- `choice` is the name that the mapping stands for where one of several names is wanted -/
  | mapping (choice : Option String) (members : List (Document × Document))
  /-- a collection with a label, which counts only where a value of any kind may stand -/
  | labelled (content : Document)
  /-- what is marked with that number -/
  | reference (number : Nat)

/-- reads documents: knows what references stand for, and counts how many more of them may be followed -/
abbrev Reading := ReaderT (List (Nat × Document)) (StateT Nat Option)

/-- a document, and the parts that its references stand for -/
structure DocumentGraph where
  root : Document
  marked : List (Nat × Document)
  /-- how often references may be followed -/
  budget : Nat

/-- reads the document of a graph -/
def DocumentGraph.read? {α : Type} (read : Document → Reading α) (g : DocumentGraph) : Option α :=
  ((read g.root).run g.marked).run' g.budget

namespace Document

/-- reads a document without references -/
def read? {α : Type} (read : Document → Reading α) (d : Document) : Option α :=
  DocumentGraph.read? read ⟨d, [], 0⟩

/-- the document itself, or what it refers to -/
def followed : Document → Reading Document
  | .reference number => do
    match ← get with
    | 0 => failure
    | budget + 1 =>
      set budget
      (← read).lookup number
  | d => pure d

/-- the scalar that stands here -/
def readLeaf (d : Document) : Reading Leaf := do
  match ← d.followed with
  | .leaf l => pure l
  | _ => failure

def readText (d : Document) : Reading String := do (← d.readLeaf).text
def readBool (d : Document) : Reading Bool := do (← d.readLeaf).bool
def readInt (d : Document) : Reading Int64 := do (← d.readLeaf).int
def readCount (d : Document) : Reading Nat := do (← d.readLeaf).count
def readDouble (d : Document) : Reading Double := do (← d.readLeaf).double

/-- the name of one of several things -/
def readChoice (d : Document) : Reading String := do
  match ← d.followed with
  | .leaf l => l.choice
  | .mapping choice _ => choice
  | _ => failure

/-- the collection that stands here, without its label -/
def readContent (d : Document) : Reading Document := do
  match ← d.followed with
  | .labelled content => pure content
  | d => pure d

/-- something that may be left out -/
def readOptional {α : Type} (readGiven : Document → Reading α) (d : Document) : Reading (Option α) := do
  match ← d.followed with
  | .leaf l => if ← l.isGiven then some <$> readGiven (.leaf l) else pure none
  | d => some <$> readGiven d

/-- the items of a sequence -/
def readItems (d : Document) : Reading (List Document) := do
  match ← d.readContent with
  | .leaf l => if l.isEmpty then pure [] else failure
  | .sequence _ items => pure items
  | _ => failure

/-- the members of a mapping under the texts of their keys -/
def readMembers (d : Document) : Reading (List (String × Document)) := do
  match ← d.readContent with
  | .leaf l => if l.isEmpty then pure [] else failure
  | .mapping _ members => members.mapM fun (key, value) => return (← key.readText, value)
  | _ => failure

/-- the member of that name, which must not stand twice -/
def uniqueMember? (members : List (String × Document)) (name : String) : Option (Option Document) :=
  match members.filter (·.1 = name) with
  | [] => some none
  | [(_, v)] => some (some v)
  | _ => none

/-- the named parts of a record: members of a mapping, or items of a positional sequence -/
def readParts (names : List String) (d : Document) : Reading (List (Option Document)) := do
  match ← d.readContent with
  | .sequence positional items =>
    if !positional || names.length < items.length then failure
    else return items.map some ++ List.replicate (names.length - items.length) none
  | d =>
    let members ← d.readMembers
    names.mapM fun name => uniqueMember? members name

/-- a part read in its own way, or a default for a part that is missing -/
def orDefault {α : Type} (default : α) (readPart : Document → Reading α) : Option Document → Reading α
  | none => pure default
  | some d => readPart d

/-- a list of things read alike -/
def readList {α : Type} (readItem : Document → Reading α) (d : Document) : Reading (List α) := do
  (← d.readItems).mapM readItem

/-- a table of things read alike, in the order of the members -/
def readTable {α : Type} (readValue : Document → Reading α) (d : Document) : Reading (List (String × α)) := do
  (← d.readMembers).mapM fun (name, value) => return (name, ← readValue value)

/-- the document with all that its references stand for: every part must have a kind of its own, and collections nest
at most `depth` deep -/
def readWhole (depth : Nat) (d : Document) : Reading Document := do
  match ← d.followed, depth with
  | .leaf l, _ => if l.kind = .unfit then failure else pure (.leaf l)
  | .sequence positional items, depth + 1 => return .sequence positional (← items.mapM (readWhole depth))
  | .mapping choice members, depth + 1 =>
    return .mapping choice (← members.mapM fun (key, value) => do
      return (← readWhole depth key, ← readWhole depth value))
  | _, _ => failure
termination_by structural depth

/-! ## JSON -/

/-- the readings of a JSON number -/
def numberLeaf : JsonNumber → Leaf
  | .integer i =>
    { kind := if 0 ≤ i then .natural else .number
      int := Number.int64? i
      count := if 0 ≤ i then some i.toNat else none
      double := some (Double.ofInt i) }
  | .double d => { kind := .number, double := some d }

mutual

/-- a JSON value as a document -/
def ofJson : Json → Document
  | .null => .leaf { kind := .null, isGiven := some false }
  | .bool b => .leaf { kind := .bool, bool := some b }
  | .number n => .leaf (numberLeaf n)
  | .string s => .leaf { kind := .text, text := some s, choice := some s }
  | .array items => .sequence true (ofJsonItems items)
  | .object members =>
    let choice := match members with
      | [(name, .null)] => some name
      | _ => none
    .mapping choice (ofJsonMembers members)

/-- the items of a JSON array as documents -/
def ofJsonItems : List Json → List Document
  | [] => []
  | item :: items => ofJson item :: ofJsonItems items

/-- the members of a JSON object as documents -/
def ofJsonMembers : List (String × Json) → List (Document × Document)
  | [] => []
  | (name, value) :: members => (.leaf { kind := .text, text := some name }, ofJson value) :: ofJsonMembers members

end

end Document
end ScopedStore
