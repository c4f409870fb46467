/-
The documents that YAML texts describe.

Which readings a scalar allows depends on how it is written: a plain one may be a number, a truth value or nothing, a
quoted one is a text only, and a tag may demand one of these. `Node.toDocument` gives a tree its readings;
`DocumentGraph.ofYaml?` reads a whole text.
-/
import ScopedStore.Yaml.Node
import ScopedStore.Document

namespace ScopedStore.Yaml

/-! ## Scalars -/

/-- digits of a base, at least one -/
def readDigits (base : Nat) (cs : List Char) : Option Nat :=
  let values := cs.map Text.hexValue?
  if cs.isEmpty || values.any (fun v => v.all (base ≤ ·)) then none
  else some (values.foldl (fun acc v => base * acc + v.getD 0) 0)

/-- a whole number without its sign: decimal without leading zeros, or with the mark of another base -/
def readMagnitude : List Char → Option Nat
  | '0' :: 'x' :: ds => readDigits 16 ds
  | '0' :: 'o' :: ds => readDigits 8 ds
  | '0' :: 'b' :: ds => readDigits 2 ds
  | ['0'] => some 0
  | '0' :: _ => none
  | ds => readDigits 10 ds

/-- a whole number -/
def readInteger (s : String) : Option Int :=
  let (negative, cs) := Text.splitSign s.toList
  (readMagnitude cs).map fun n => if negative then -(n : Int) else (n : Int)

/-- a whole number without a minus sign -/
def readUnsigned (s : String) : Option Nat :=
  if s.toList.head? = some '-' then none else (readInteger s).map Int.toNat

/-- the words for the doubles that no digits write -/
def doubleWords : List (String × Double) :=
  [(".inf", .infinite false), (".Inf", .infinite false), (".INF", .infinite false),
    ("+.inf", .infinite false), ("+.Inf", .infinite false), ("+.INF", .infinite false),
    ("-.inf", .infinite true), ("-.Inf", .infinite true), ("-.INF", .infinite true),
    (".nan", .nan), (".NaN", .nan), (".NAN", .nan)]

/-- a double; digits must not go beyond the range -/
def readDouble (s : String) : Option Double :=
  (doubleWords.lookup s).or ((Double.read s).filter Double.isFinite)

/-- a truth value -/
def readBool (s : String) : Option Bool :=
  [("true", true), ("True", true), ("TRUE", true), ("false", false), ("False", false), ("FALSE", false)].lookup s

/-- a word for nothing -/
def isNullWord (s : String) : Bool := ["null", "Null", "NULL", "~"].contains s

/-- digits behind a leading zero, which are a text where no number is wanted -/
def isZeroPadded (s : String) : Bool :=
  match (Text.splitSign s.toList).2 with
  | '0' :: d :: ds => (d :: ds).all Char.isDigit
  | _ => false

/-- a whole number that 64 bits hold, with or without a sign -/
def fitsWord (s : String) : Bool :=
  match readUnsigned s with
  | some n => n < UInt64.size
  | none => ((readInteger s).bind Number.int64?).isSome

/-- a whole number that 128 bits hold but not 64 -/
def fitsDoubleWordOnly (s : String) : Bool :=
  !fitsWord s &&
    match readUnsigned s with
    | some n => n < 1 <<< 128
    | none => (readInteger s).any (-(1 <<< 127 : Int) ≤ ·)

/-- the kind of a whole number that 64 bits hold -/
def wordKind (s : String) : LeafKind := if (readUnsigned s).isSome then .natural else .number

/-- the kind of a plain scalar without a tag -/
def plainKind (s : String) : LeafKind :=
  if s.isEmpty || isNullWord s then .null
  else if (readBool s).isSome then .bool
  else if fitsWord s then wordKind s
  else if fitsDoubleWordOnly s then .unfit
  else if !isZeroPadded s && (readDouble s).isSome then .number
  else .text

/-- the tag of one of the standard types -/
def standardTag (name : String) : List UInt8 := octetsOf ("tag:yaml.org,2002:" ++ name)

/-- starts with an exclamation mark -/
def isLocal (tag : List UInt8) : Bool := tag.head? = some '!'.toNat.toUInt8

/-- the name in a tag that is local to the text, if its octets are those of a text -/
def localName? (tag : List UInt8) : Option String :=
  if isLocal tag then String.fromUTF8? ⟨tag.tail.toArray⟩ else none

/-- the kind of a scalar -/
def scalarKind (tag : Option (List UInt8)) (style : ScalarStyle) (s : String) : LeafKind :=
  match tag with
  | none => if style = .plain then plainKind s else .text
  | some tag =>
    if (localName? tag).isSome then .unfit
    else if tag = standardTag "bool" then if (readBool s).isSome then .bool else .unfit
    else if tag = standardTag "int" then if fitsWord s then wordKind s else .unfit
    else if tag = standardTag "float" then if (readDouble s).isSome then .number else .unfit
    else if tag = standardTag "null" then if isNullWord s then .null else .unfit
    else if isLocal tag && style = .plain then plainKind s
    else .text

/-- whether a scalar is there where something is optional: a plain one that says nothing is not -/
def scalarIsGiven (tag : Option (List UInt8)) (style : ScalarStyle) (s : String) : Option Bool :=
  if style ≠ .plain then some true
  else
    match tag with
    | none => some (!s.isEmpty && !isNullWord s)
    | some tag =>
      if tag ≠ standardTag "null" then some true
      else if isNullWord s then some false
      else none

/-- the readings of a scalar -/
def leafOf (tag : Option (List UInt8)) (style : ScalarStyle) (s : String) : Leaf :=
  let plain := style = .plain
  let blank := plain && (s.isEmpty || isNullWord s)
  let typed (name : String) : Bool := plain || (style = .literal && tag = some (standardTag name))
  { kind := scalarKind tag style s
    text := some s
    choice := match tag.bind localName? with
      | some name => if blank then some name else none
      | none => some s
    bool := if typed "bool" then readBool s else none
    int := if typed "int" then (readInteger s).bind Number.int64? else none
    count := if typed "int" then (readUnsigned s).filter (· < UInt64.size) else none
    double := if typed "float" then readDouble s else none
    isGiven := scalarIsGiven tag style s
    isEmpty := plain && s.isEmpty }

/-! ## Trees -/

/-- how often references may be followed for each part of a document -/
def referenceLimit : Nat := 100

namespace Node

mutual

/-- the number of parts of a node, starts and ends of collections included -/
def size : Node → Nat
  | .scalar _ _ _ | .reference _ => 1
  | .sequence _ items => 2 + itemsSize items
  | .mapping _ members => 2 + membersSize members

/-- the parts of items -/
def itemsSize : List Node → Nat
  | [] => 0
  | item :: items => size item + itemsSize items

/-- the parts of members -/
def membersSize : List (Node × Node) → Nat
  | [] => 0
  | (key, value) :: members => size key + size value + membersSize members

end

/-- a node under its anchor's number -/
def marked (properties : Properties) (node : Node) : List (Nat × Node) :=
  match properties.anchor with
  | some number => [(number, node)]
  | none => []

mutual

/-- the nodes with anchors, in the order of the text -/
def anchors : Node → List (Nat × Node)
  | .scalar ps style text => marked ps (.scalar ps style text)
  | .reference _ => []
  | .sequence ps items => marked ps (.sequence ps items) ++ itemsAnchors items
  | .mapping ps members => marked ps (.mapping ps members) ++ membersAnchors members

/-- the nodes with anchors among items -/
def itemsAnchors : List Node → List (Nat × Node)
  | [] => []
  | item :: items => anchors item ++ itemsAnchors items

/-- the nodes with anchors among members -/
def membersAnchors : List (Node × Node) → List (Nat × Node)
  | [] => []
  | (key, value) :: members => anchors key ++ anchors value ++ membersAnchors members

end

/-- a collection with a local tag is labelled by it -/
def labelledBy (properties : Properties) (d : Document) : Document :=
  if (properties.tag.bind localName?).isSome then .labelled d else d

mutual

/-- the document of a node -/
def toDocument : Node → Document
  | .scalar ps style text => .leaf (leafOf ps.tag style text)
  | .sequence ps items => labelledBy ps (.sequence false (itemsToDocuments items))
  | .mapping ps members => labelledBy ps (.mapping none (membersToDocuments members))
  | .reference number => .reference number

/-- the documents of items -/
def itemsToDocuments : List Node → List Document
  | [] => []
  | item :: items => toDocument item :: itemsToDocuments items

/-- the documents of members -/
def membersToDocuments : List (Node × Node) → List (Document × Document)
  | [] => []
  | (key, value) :: members => (toDocument key, toDocument value) :: membersToDocuments members

end

end Node

end ScopedStore.Yaml

namespace ScopedStore.DocumentGraph

/-- the document that a YAML text describes; a text without a document stands for an empty scalar, and of several
anchors with one number the last counts -/
def ofYaml? (text : String) : Option DocumentGraph := do
  match ← Yaml.Node.ofTokens? (← Yaml.Token.ofText? text) with
  | none => return ⟨.leaf (Yaml.leafOf none .plain ""), [], 0⟩
  | some node =>
    return {
      root := node.toDocument
      marked := node.anchors.reverse.map fun (number, node) => (number, node.toDocument)
      budget := Yaml.referenceLimit * node.size }

end ScopedStore.DocumentGraph
