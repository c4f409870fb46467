/-
The tree that the tokens of a YAML text describe.

A text holds one document or none. `Node.ofTokens?` reads it; every name after an asterisk must be one that an anchor
gave before. An anchor has as its number the count of different names known before it, and a reference keeps the
number that its name has at that place.
-/
import ScopedStore.Yaml.Token

namespace ScopedStore.Yaml

/-- what may stand in front of a node -/
structure Properties where
  anchor : Option Nat := none
  /-- octets, which need not be those of a text -/
  tag : Option (List UInt8) := none
  deriving DecidableEq

/-- a node of a document -/
inductive Node where
  | scalar (properties : Properties) (style : ScalarStyle) (text : String)
  | sequence (properties : Properties) (items : List Node)
  | mapping (properties : Properties) (members : List (Node × Node))
  /-- a node that an anchor marks -/
  | reference (number : Nat)

namespace Node

/-- a node that is left out -/
def empty (properties : Properties) : Node := .scalar properties .plain ""

/-! ## Reading tokens -/

/-- what is left of the tokens, and what the earlier ones declared -/
structure ReadState where
  tokens : List Token
  /-- handles and what they abbreviate -/
  handles : List (String × List UInt8)
  /-- names of anchors with their numbers, the last declaration of a name first -/
  names : List (String × Nat) := []

/-- reads nodes from tokens -/
abbrev Reader := StateT ReadState Option

namespace Reader

/-- the next token -/
def peek : Reader (Option Token) := do return (← get).tokens.head?

/-- passes over a token -/
def skip : Reader Unit := modify fun s => { s with tokens := s.tokens.tail }

/-- the next token is one of these -/
def nextIn (tokens : List Token) : Reader Bool := do
  match ← peek with
  | some t => return tokens.contains t
  | none => return false

/-- passes over the token, which must stand here -/
def expect (token : Token) : Reader Unit := do
  if (← peek) = some token then skip else failure

/-- a name of an anchor gets its number -/
def declare (name : String) : Reader Nat := do
  let number := ((← get).names.map Prod.fst).eraseDups.length
  modify fun s => { s with names := (name, number) :: s.names }
  return number

/-- an anchor, if one stands here -/
def anchor? : Reader (Option String) := do
  match ← peek with
  | some (.anchor name) => do skip; return some name
  | _ => return none

/-- a tag with its handle written out, if one stands here -/
def tag? : Reader (Option (List UInt8)) := do
  match ← peek with
  | some (.tag handle suffix) => do
    skip
    if handle.isEmpty then return some suffix
    else
      match (← get).handles.lookup handle with
      | some start => return some (start ++ suffix)
      | none => failure
  | _ => return none

/-- an anchor and a tag in either order -/
def properties : Reader Properties := do
  let first ← anchor?
  let tag ← tag?
  let name ← if first.isSome then pure first else anchor?
  return { anchor := ← name.mapM declare, tag }

/-- a node that consists of its properties -/
def leftOut (ps : Properties) : Reader Node := if ps = {} then failure else return empty ps

mutual

/-- a node; one outside of brackets may be a block collection, and items may stand without their own indentation
where `indentless` holds -/
def node : Nat → Bool → Bool → Reader Node
  | 0, _, _ => failure
  | fuel + 1, inBlock, indentless => do
    if let some (.reference name) ← peek then
      skip
      match (← get).names.lookup name with
      | some number => return .reference number
      | none => failure
    else
      let ps ← properties
      match ← peek with
      | some (.scalar style text) =>
        skip
        return .scalar ps style text
      | some .flowSequenceStart =>
        skip
        return .sequence ps (← flowItems fuel true)
      | some .flowMappingStart =>
        skip
        return .mapping ps (← flowMembers fuel true)
      | some .blockEntry =>
        if indentless then return .sequence ps (← indentlessItems fuel) else leftOut ps
      | some .blockSequenceStart =>
        if inBlock then
          skip
          return .sequence ps (← blockItems fuel)
        else leftOut ps
      | some .blockMappingStart =>
        if inBlock then
          skip
          return .mapping ps (← blockMembers fuel)
        else leftOut ps
      | _ => leftOut ps

/-- a node, or an empty one where one of these tokens follows -/
def nodeUnless : Nat → List Token → Bool → Bool → Reader Node
  | 0, _, _, _ => failure
  | fuel + 1, stops, inBlock, indentless => do
    if ← nextIn stops then return empty {} else node fuel inBlock indentless

/-- the value after a colon, or an empty one where there is no colon -/
def valueUnless : Nat → List Token → Bool → Reader Node
  | 0, _, _ => failure
  | fuel + 1, stops, inBlock => do
    if (← peek) = some .value then
      skip
      nodeUnless fuel stops inBlock inBlock
    else return empty {}

/-- the items of a block sequence, up to its end -/
def blockItems : Nat → Reader (List Node)
  | 0 => failure
  | fuel + 1 => do
    match ← peek with
    | some .blockEntry =>
      skip
      let item ← nodeUnless fuel [.blockEntry, .blockEnd] true false
      return item :: (← blockItems fuel)
    | some .blockEnd => do skip; return []
    | _ => failure

/-- the items of a sequence that stands at the column of its key -/
def indentlessItems : Nat → Reader (List Node)
  | 0 => failure
  | fuel + 1 => do
    if (← peek) = some .blockEntry then
      skip
      let item ← nodeUnless fuel [.blockEntry, .key, .value, .blockEnd] true false
      return item :: (← indentlessItems fuel)
    else return []

/-- the members of a block mapping, up to its end -/
def blockMembers : Nat → Reader (List (Node × Node))
  | 0 => failure
  | fuel + 1 => do
    match ← peek with
    | some .key =>
      skip
      let key ← nodeUnless fuel [.key, .value, .blockEnd] true true
      let value ← valueUnless fuel [.key, .value, .blockEnd] true
      return (key, value) :: (← blockMembers fuel)
    | some .blockEnd => do skip; return []
    | _ => failure

/-- the items between square brackets; an item with a colon is a mapping of one member -/
def flowItems : Nat → Bool → Reader (List Node)
  | 0, _ => failure
  | fuel + 1, first => do
    if (← peek) = some .flowSequenceEnd then do skip; return []
    else
      if !first then expect .flowEntry
      match ← peek with
      | some .flowSequenceEnd => do skip; return []
      | some .key =>
        skip
        let key ←
          if ← nextIn [.value, .flowEntry, .flowSequenceEnd] then do skip; pure (empty {})
          else node fuel false false
        let value ← valueUnless fuel [.flowEntry, .flowSequenceEnd] false
        return .mapping {} [(key, value)] :: (← flowItems fuel false)
      | _ =>
        let item ← node fuel false false
        return item :: (← flowItems fuel false)

/-- the members between curly brackets; a member without a colon has an empty value -/
def flowMembers : Nat → Bool → Reader (List (Node × Node))
  | 0, _ => failure
  | fuel + 1, first => do
    if (← peek) = some .flowMappingEnd then do skip; return []
    else
      if !first then expect .flowEntry
      match ← peek with
      | some .flowMappingEnd => do skip; return []
      | some .key =>
        skip
        let key ← nodeUnless fuel [.value, .flowEntry, .flowMappingEnd] false false
        let value ← valueUnless fuel [.flowEntry, .flowMappingEnd] false
        return (key, value) :: (← flowMembers fuel false)
      | _ =>
        let key ← node fuel false false
        return (key, empty {}) :: (← flowMembers fuel false)

end

end Reader

/-! ## Documents -/

/-- the abbreviations that need no directive -/
def standardHandles : List (String × List UInt8) :=
  [("!", octetsOf "!"), ("!!", octetsOf "tag:yaml.org,2002:")]

/-- the directives in front of a document: one version at most, one that is known, and no handle twice -/
def directives (versioned : Bool) (handles : List (String × List UInt8)) :
    List Token → Option (List (String × List UInt8) × List Token)
  | .versionDirective major minor :: rest =>
    if versioned || major ≠ 1 || (minor ≠ 1 && minor ≠ 2) then none else directives true handles rest
  | .tagDirective handle start :: rest =>
    if (handles.lookup handle).isSome then none else directives versioned ((handle, start) :: handles) rest
  | rest => some (handles, rest)

/-- tokens after which a document has no content -/
def endsDocument : Token → Bool
  | .versionDirective _ _ | .tagDirective _ _ | .documentStart | .documentEnd => true
  | _ => false

/-- the root of a document that is not empty -/
def root (handles : List (String × List UInt8)) (tokens : List Token) : Option (Node × List Token) :=
  ((Reader.node (4 * tokens.length + 4) true false).run { tokens, handles }).map fun (n, s) => (n, s.tokens)

/-- the document at the front of the tokens -/
def document (tokens : List Token) : Option (Node × List Token) :=
  match tokens with
  | [] => none
  | first :: _ =>
    match first with
    | .versionDirective _ _ | .tagDirective _ _ | .documentStart =>
      match directives false [] tokens with
      | some (handles, .documentStart :: rest) =>
        match rest with
        | [] => some (empty {}, [])
        | t :: _ => if endsDocument t then some (empty {}, rest) else root (handles ++ standardHandles) rest
      | _ => none
    | _ => root standardHandles tokens

/-- the only document of the tokens; the inner option is none when they hold no document at all -/
def ofTokens? (tokens : List Token) : Option (Option Node) :=
  if tokens.isEmpty then some none
  else
    match document tokens with
    | some (n, rest) => if rest.all (· = .documentEnd) then some (some n) else none
    | none => none

end Node
end ScopedStore.Yaml
