/-
Lists and sets as one raw text.

A list is written either with a delimiter between its items, or as a JSON array of strings. With an escape character,
delimiters and escapes inside an item are marked by it; without one, an item must not hold the delimiter. The empty
text is the empty list in both notations. A set is a list without repeated items.
-/
import ScopedStore.Coercion
import ScopedStore.Json.Read

namespace ScopedStore

/-- the notation of lists and sets -/
inductive CompoundNotation where
  | delimited (delimiter : Char) (escape : Option Char)
  | jsonArray
  deriving DecidableEq

namespace CompoundNotation

/-! ## Delimited items -/

/-- an item with its delimiters and escapes marked -/
def markItem (delimiter escape : Char) (item : List Char) : List Char :=
  item.flatMap fun c => if c = escape ∨ c = delimiter then [escape, c] else [c]

/-- one item as it stands between the delimiters -/
def writeItem (delimiter : Char) (escape : Option Char) (item : String) : Except CoercionError (List Char) :=
  match escape with
  | some e => .ok (markItem delimiter e item.toList)
  | none =>
    if item.toList.contains delimiter then .error (.notCompound item (.containsDelimiter delimiter))
    else .ok item.toList

/-- the character put in front of the first item -/
def prependToFirst (c : Char) : List (List Char) → List (List Char)
  | [] => [[c]]
  | item :: items => (c :: item) :: items

/-- the items between unmarked delimiters; there are none when the text ends in an unfinished escape -/
def splitItems (delimiter : Char) (escape : Option Char) : List Char → Option (List (List Char))
  | [] => some [[]]
  | [c] =>
    if some c = escape then none
    else if c = delimiter then some [[], []]
    else some [[c]]
  | c :: d :: rest =>
    if some c = escape then (splitItems delimiter escape rest).map (prependToFirst d)
    else if c = delimiter then (splitItems delimiter escape (d :: rest)).map ([] :: ·)
    else (splitItems delimiter escape (d :: rest)).map (prependToFirst c)

/-! ## Arrays -/

/-- the text of an array element: strings as they are, numbers and booleans by their JSON text -/
def elementText : Json → Except CompoundFlaw String
  | .string s => .ok s
  | .number n => .ok (String.ofList n.write)
  | .bool b => .ok (if b then "true" else "false")
  | other => .error (.unsupportedElement other.text)

/-! ## Lists and sets -/

/-- the raw text of a list -/
def encodeList (n : CompoundNotation) (items : List String) : Except CoercionError String :=
  match n with
  | .delimited delimiter escape => do
    let written ← items.mapM (writeItem delimiter escape)
    return String.ofList (Text.join delimiter written)
  | .jsonArray => .ok (Json.array (items.map Json.string)).text

/-- the list that a raw text writes -/
def decodeList (n : CompoundNotation) (raw : String) : Except CoercionError (List String) :=
  if raw = "" then .ok []
  else
    match n with
    | .delimited delimiter escape =>
      match splitItems delimiter escape raw.toList with
      | some items => .ok (items.map String.ofList)
      | none => .error (.notCompound raw .danglingEscape)
    | .jsonArray =>
      match Json.read raw with
      | some (.array elements) => (elements.mapM elementText).mapError (.notCompound raw)
      | _ => .error (.notCompound raw .notAnArray)

/-- the raw text of a set -/
def encodeSet (n : CompoundNotation) (items : List String) : Except CoercionError String :=
  n.encodeList (Text.dedupe items)

/-- the set that a raw text writes, in the order of first occurrences -/
def decodeSet (n : CompoundNotation) (raw : String) : Except CoercionError (List String) :=
  (n.decodeList raw).map Text.dedupe

end CompoundNotation
end ScopedStore
