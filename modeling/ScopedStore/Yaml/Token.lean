/-
The tokens of a YAML text: indicators, scalars, and the starts and ends of collections that the indentation implies.

A key in a line of its own is known as a key only when the colon after it is reached. So each place where one may
start keeps a slot among the tokens; the colon fills the slot, if it comes on the same line and within `keyLimit`
octets. `TokenState.next` reads one token, and `Token.ofText?` all of them; there are none when the text is not
well formed.
-/
import ScopedStore.Yaml.Scalar

namespace ScopedStore.Yaml

/-- a token -/
inductive Token where
  | versionDirective (major minor : Nat)
  | tagDirective (handle : String) (start : List UInt8)
  | documentStart
  | documentEnd
  | blockSequenceStart
  | blockMappingStart
  | blockEnd
  | flowSequenceStart
  | flowSequenceEnd
  | flowMappingStart
  | flowMappingEnd
  | blockEntry
  | flowEntry
  | key
  | value
  | reference (name : String)
  | anchor (name : String)
  /-- a tag with the handle that abbreviates its start, or no handle -/
  | tag (handle : String) (suffix : List UInt8)
  | scalar (style : ScalarStyle) (text : String)
  deriving DecidableEq

/-! ## Tags

A tag is a row of octets: its characters are of ASCII, and others are written as percent signs with two digits. Such
octets come in groups of the lengths that UTF-8 has, but need not be the octets of a character. What follows a zero
octet does not count.
-/

/-- a character of a tag; commas and square brackets only where the tag stands between angle brackets -/
def isTagChar (verbatim : Bool) (c : Char) : Bool :=
  isWordChar c || ";/?:@&=+$.!~*'()".toList.contains c || (verbatim && ",[]".toList.contains c)

/-- an octet written as a percent sign and two hexadecimal digits -/
def octet? : List Char → Option Nat
  | '%' :: a :: b :: _ => do return 16 * (← Text.hexValue? a) + (← Text.hexValue? b)
  | _ => none

/-- how many octets a group has whose first octet this is -/
def groupWidth? (first : Nat) : Option Nat :=
  if first < 0x80 then some 1
  else if first < 0xC0 then none
  else if first < 0xE0 then some 2
  else if first < 0xF0 then some 3
  else if first < 0xF8 then some 4
  else none

/-- the `n` further octets of a group -/
def furtherOctets? : Nat → List Char → Option (List UInt8)
  | 0, _ => some []
  | n + 1, cs => do
    let octet ← octet? cs
    if octet < 0x80 ∨ 0xC0 ≤ octet then none else return octet.toUInt8 :: (← furtherOctets? n (cs.drop 3))

/-- a group of written octets -/
def octetGroup? (cs : List Char) : Option (List UInt8) := do
  let first ← octet? cs
  return first.toUInt8 :: (← furtherOctets? ((← groupWidth? first) - 1) (cs.drop 3))

/-- the octets of a tag at a place, after those of `acc` in reverse order -/
def tagOctets (verbatim : Bool) : Nat → List UInt8 → Cursor → Option (List UInt8 × Cursor)
  | 0, acc, c => some (acc.reverse, c)
  | fuel + 1, acc, c =>
    match c.peek with
    | none => some (acc.reverse, c)
    | some x =>
      if x = '%' then
        match octetGroup? c.text with
        | none => none
        | some group => tagOctets verbatim fuel (group.reverse ++ acc) (c.advance (3 * group.length))
      else if isTagChar verbatim x then tagOctets verbatim fuel (x.toNat.toUInt8 :: acc) (c.advance 1)
      else some (acc.reverse, c)

/-- the octets in front of the first zero -/
def untilZero (octets : List UInt8) : List UInt8 := octets.takeWhile (· ≠ 0)

/-- a non-empty run of octets of a tag -/
def readTagText (verbatim : Bool) (c : Cursor) : Option (List UInt8 × Cursor) := do
  let (octets, c) ← tagOctets verbatim (c.text.length + 1) [] c
  if octets.isEmpty then none else return (untilZero octets, c)

/-- the octets of a text -/
def octetsOf (text : String) : List UInt8 := text.toUTF8.toList

/-- a tag handle, or the start of a tag that has none: an exclamation mark, a word, perhaps another mark -/
def readHandle (c : Cursor) : List Char × Cursor :=
  let (word, c) := (c.advance 1).takeWhile isWordChar
  if c.peek = some '!' then ('!' :: word ++ ['!'], c.advance 1) else ('!' :: word, c)

/-- a tag whose exclamation mark stands at the front -/
def readTag (inFlow : Bool) (c : Cursor) : Option (Token × Cursor) := do
  let (token, c) ←
    if c.text.drop 1 |> frontIs (· = '<') then do
      let (name, c) ← readTagText true (c.advance 2)
      if c.peek = some '>' then pure (Token.tag "" name, c.advance 1) else none
    else
      let (handle, c) := readHandle c
      if 1 < handle.length && handle.getLast? = some '!' then do
        let (suffix, c) ← readTagText false c
        pure (Token.tag (String.ofList handle) suffix, c)
      else do
        let (rest, c) ← tagOctets false (c.text.length + 1) [] c
        let suffix := untilZero (octetsOf (String.ofList handle.tail) ++ rest)
        pure (if suffix.isEmpty then Token.tag "" (octetsOf "!") else Token.tag "!" suffix, c)
  if atGap c.text || (inFlow && c.peek = some ',') then some (token, c) else none

/-! ## Directives and names -/

/-- at most nine digits -/
def readVersionNumber (c : Cursor) : Option (Nat × Cursor) :=
  let (ds, c) := c.takeWhile Char.isDigit
  if ds.isEmpty || 9 < ds.length then none else some (Nat.ofDigitChars 10 ds 0, c)

/-- the version that a text says it follows -/
def readVersion (c : Cursor) : Option (Token × Cursor) := do
  let (major, c) ← readVersionNumber (c.skipWhile isBlank)
  if c.peek ≠ some '.' then none
  else
    let (minor, c) ← readVersionNumber (c.advance 1)
    return (.versionDirective major minor, c)

/-- a handle, and the start of a tag that it abbreviates -/
def readTagDirective (c : Cursor) : Option (Token × Cursor) := do
  let c := c.skipWhile isBlank
  if c.peek ≠ some '!' then none
  else
    let (handle, c) := readHandle c
    if handle ≠ ['!'] ∧ handle.getLast? ≠ some '!' then none
    else if !frontIs isBlank c.text then none
    else
      let (start, c) ← readTagText true (c.skipWhile isBlank)
      if atGap c.text then some (.tagDirective (String.ofList handle) start, c) else none

/-- a directive whose percent sign stands at the front, with the rest of its line -/
def readDirective (c : Cursor) : Option (Token × Cursor) := do
  let (name, c) := (c.advance 1).takeWhile isWordChar
  if !atGap c.text then none
  else
    let (token, c) ←
      if name = "YAML".toList then readVersion c
      else if name = "TAG".toList then readTagDirective c
      else none
    return (token, ← c.finishLine?)

/-- the name of an anchor, after the character in front of it -/
def readName (c : Cursor) : Option (String × Cursor) :=
  let (word, c) := (c.advance 1).takeWhile isWordChar
  if word.isEmpty then none
  else if atGap c.text || frontIs ("?:,]\x7d%@\x60".toList.contains ·) c.text then some (String.ofList word, c)
  else none

/-! ## Keys -/

/-- how many octets a key may have up to its colon -/
def keyLimit : Nat := 1024

/-- a place where a key may have started -/
structure PendingKey where
  /-- the slot among the tokens -/
  slot : Nat
  /-- nothing but a key can stand here -/
  required : Bool
  index : Nat
  line : Nat
  column : Nat

/-- what the line and the distance have left of a pending key at a place; a required one must not be lost -/
def PendingKey.atPlace? (c : Cursor) (key : PendingKey) : Option (Option PendingKey) :=
  if key.line < c.line || key.index + keyLimit < c.index then if key.required then none else some none
  else some (some key)

/-! ## The tokens of a text -/

/-- a token, or a slot for what turns out to stand before the next one -/
inductive TokenEntry where
  | token (t : Token)
  | slot (found : List Token)

/-- the tokens that an entry stands for -/
def TokenEntry.tokens : TokenEntry → List Token
  | .token t => [t]
  | .slot found => found

/-- what is known after some of the tokens -/
structure TokenState where
  cursor : Cursor
  /-- columns of the open block collections, the innermost first -/
  columns : List Nat := []
  /-- the pending key outside of brackets -/
  blockKey : Option PendingKey := none
  /-- the pending keys of the open brackets, the innermost first -/
  flowKeys : List (Option PendingKey) := []
  /-- a key may start at this place -/
  keyAllowed : Bool := true
  entries : Array TokenEntry := #[]

namespace TokenState

/-- inside brackets -/
def inFlow (s : TokenState) : Bool := !s.flowKeys.isEmpty

/-- the least column of what belongs to the innermost block collection's items -/
def margin (s : TokenState) : Nat :=
  match s.columns with
  | [] => 0
  | column :: _ => column + 1

/-- a further token -/
def push (t : Token) (s : TokenState) : TokenState := { s with entries := s.entries.push (.token t) }

/-- a further token that is written with `n` characters -/
def pushShort (t : Token) (n : Nat) (s : TokenState) : TokenState := { s.push t with cursor := s.cursor.advance n }

/-- the pending key of the innermost bracket, or of the block outside of brackets -/
def key? (s : TokenState) : Option PendingKey :=
  match s.flowKeys with
  | [] => s.blockKey
  | key :: _ => key

/-- with another pending key in the place of the innermost one -/
def withKey (key : Option PendingKey) (s : TokenState) : TokenState :=
  match s.flowKeys with
  | [] => { s with blockKey := key }
  | _ :: keys => { s with flowKeys := key :: keys }

/-- without the innermost pending key, which must not be a required one -/
def dropKey (s : TokenState) : Option TokenState :=
  match s.key? with
  | some key => if key.required then none else some (s.withKey none)
  | none => some s

/-- a slot for a key that may start here, if one may -/
def saveKey (s : TokenState) : Option TokenState := do
  if !s.keyAllowed then return s
  let s ← s.dropKey
  let c := s.cursor
  let key : PendingKey :=
    { slot := s.entries.size
      required := !s.inFlow && s.columns.head? = some c.column
      index := c.index, line := c.line, column := c.column }
  return { s.withKey (some key) with entries := s.entries.push (.slot []) }

/-- the block collections that end where a line goes on at a column left of theirs; brackets end none -/
def closeBlocks (column : Option Nat) (s : TokenState) : TokenState :=
  if s.inFlow then s
  else
    let ends : Nat → Bool := fun start => match column with
      | none => true
      | some column => column < start
    let closed := s.columns.takeWhile ends
    { s with
      columns := s.columns.dropWhile ends
      entries := s.entries ++ (closed.map fun _ => TokenEntry.token .blockEnd).toArray }

/-- a column right of the innermost block collection opens another one -/
def opensAt (column : Nat) (s : TokenState) : Bool := !s.inFlow && s.margin ≤ column

/-- the block collection that an indicator at this place opens, if its column is a new one -/
def openBlock (start : Token) (s : TokenState) : TokenState :=
  if s.opensAt s.cursor.column then { s.push start with columns := s.cursor.column :: s.columns } else s

/-- the next place that is neither blank nor in a comment; outside of brackets a new line lets a key start,
and tabs must not stand where a key may -/
def skipGap (inFlow : Bool) : Nat → Bool → Cursor → Bool × Cursor
  | 0, keyAllowed, c => (keyAllowed, c)
  | fuel + 1, keyAllowed, c =>
    let c := if c.column = 0 then c.skip '\ufeff' else c
    let c := c.skipWhile fun x => x = ' ' || (x = '\t' && (inFlow || !keyAllowed))
    let c := c.skipComment
    if frontIs isBreak c.text then skipGap inFlow fuel (keyAllowed || !inFlow) c.skipBreak else (keyAllowed, c)

/-- up to the next token, with what that place means for pending keys and open blocks -/
def approach (s : TokenState) : Option TokenState := do
  let (keyAllowed, c) := skipGap s.inFlow (s.cursor.text.length + 1) s.keyAllowed s.cursor
  let blockKey ← (s.blockKey.mapM (PendingKey.atPlace? c)).map Option.join
  let flowKeys ← s.flowKeys.mapM fun key => (key.mapM (PendingKey.atPlace? c)).map Option.join
  return { s with cursor := c, keyAllowed, blockKey, flowKeys }.closeBlocks (some c.column)

/-- a directive, or the start or end of a document: it ends all block collections -/
def document (read : Cursor → Option (Token × Cursor)) (s : TokenState) : Option TokenState := do
  let s ← (s.closeBlocks none).dropKey
  let (token, cursor) ← read s.cursor
  return { s.push token with cursor, keyAllowed := false }

/-- an opening bracket -/
def openFlow (t : Token) (s : TokenState) : Option TokenState := do
  let s ← s.saveKey
  return { s.pushShort t 1 with flowKeys := none :: s.flowKeys, keyAllowed := true }

/-- a closing bracket -/
def closeFlow (t : Token) (s : TokenState) : Option TokenState := do
  let s ← s.dropKey
  return { s.pushShort t 1 with flowKeys := s.flowKeys.tail, keyAllowed := false }

/-- a comma between brackets -/
def flowEntry (s : TokenState) : Option TokenState := do
  let s ← s.dropKey
  return { s.pushShort .flowEntry 1 with keyAllowed := true }

/-- a hyphen before an item -/
def blockEntry (s : TokenState) : Option TokenState := do
  if !s.inFlow && !s.keyAllowed then none
  else
    let s ← (s.openBlock .blockSequenceStart).dropKey
    return { s.pushShort .blockEntry 1 with keyAllowed := true }

/-- a question mark before a key -/
def explicitKey (s : TokenState) : Option TokenState := do
  if !s.inFlow && !s.keyAllowed then none
  else
    let s ← (s.openBlock .blockMappingStart).dropKey
    return { s.pushShort .key 1 with keyAllowed := !s.inFlow }

/-- a colon: what stands before it on its line was a key, or else the colon answers a question mark -/
def mappingValue (s : TokenState) : Option TokenState :=
  match s.key? with
  | some key =>
    let opens := s.opensAt key.column
    let found := if opens then [Token.blockMappingStart, .key] else [.key]
    let s := { s.withKey none with
      columns := if opens then key.column :: s.columns else s.columns
      entries := s.entries.setIfInBounds key.slot (.slot found)
      keyAllowed := false }
    some (s.pushShort .value 1)
  | none =>
    if !s.inFlow && !s.keyAllowed then none
    else
      let s := s.openBlock .blockMappingStart
      some { s.pushShort .value 1 with keyAllowed := !s.inFlow }

/-- something that may be a key or the start of one -/
def keyLike (read : Cursor → Option (Token × Bool × Cursor)) (s : TokenState) : Option TokenState := do
  let s ← s.saveKey
  let (token, keyAllowed, cursor) ← read s.cursor
  return { s.push token with cursor, keyAllowed }

/-- a block of lines, which is never a key -/
def block (style : ScalarStyle) (s : TokenState) : Option TokenState := do
  let s ← s.dropKey
  let (text, cursor) ← readBlock (style = .folded) s.margin s.cursor
  return { s.push (.scalar style text) with cursor, keyAllowed := true }

/-- characters that start no plain scalar -/
def indicators : List Char := "-?:,[]\x7b\x7d#&*!|>'\"%@\x60".toList

/-- the token at this place, where something stands -/
def next (s : TokenState) : Option TokenState :=
  let c := s.cursor
  let rest := c.text.drop 1
  match c.peek with
  | none => none
  | some x =>
    if c.column = 0 && x = '%' then s.document readDirective
    else if c.atDocumentStart then s.document fun c => some (.documentStart, c.advance 3)
    else if c.atDocumentEnd then s.document fun c => some (.documentEnd, c.advance 3)
    else if x = '[' then s.openFlow .flowSequenceStart
    else if x = '\x7b' then s.openFlow .flowMappingStart
    else if x = ']' then s.closeFlow .flowSequenceEnd
    else if x = '\x7d' then s.closeFlow .flowMappingEnd
    else if x = ',' then s.flowEntry
    else if x = '-' && atGap rest then s.blockEntry
    else if x = '?' && (s.inFlow || atGap rest) then s.explicitKey
    else if x = ':' && (s.inFlow || atGap rest) then s.mappingValue
    else if x = '*' then s.keyLike fun c => (readName c).map fun (name, c) => (.reference name, false, c)
    else if x = '&' then s.keyLike fun c => (readName c).map fun (name, c) => (.anchor name, false, c)
    else if x = '!' then s.keyLike fun c => (readTag s.inFlow c).map fun (tag, c) => (tag, false, c)
    else if x = '|' && !s.inFlow then s.block .literal
    else if x = '>' && !s.inFlow then s.block .folded
    else if x = '\'' then
      s.keyLike fun c => (readQuoted false c).map fun (text, c) => (.scalar .singleQuoted text, false, c)
    else if x = '"' then
      s.keyLike fun c => (readQuoted true c).map fun (text, c) => (.scalar .doubleQuoted text, false, c)
    else if (!isBlank x && !indicators.contains x) || (x = '-' && !frontIs isBlank rest)
        || (!s.inFlow && (x = '?' || x = ':') && !atGap rest) then
      s.keyLike fun c => (readPlain s.inFlow s.margin c).map fun (text, atBreak, c) =>
        (.scalar .plain text, atBreak, c)
    else none

/-- the rest of the tokens -/
def run : Nat → TokenState → Option TokenState
  | 0, _ => none
  | fuel + 1, s =>
    match s.approach with
    | none => none
    | some s =>
      if s.cursor.text.isEmpty then (s.closeBlocks none).dropKey
      else
        match s.next with
        | none => none
        | some s => run fuel s

end TokenState

/-- the tokens of a text -/
def Token.ofText? (text : String) : Option (List Token) := do
  let cs := text.toList
  if !cs.all admissible then none
  else
    let s ← TokenState.run (cs.length + 1) { cursor := { text := cs } }
    return s.entries.toList.flatMap TokenEntry.tokens

end ScopedStore.Yaml
