/-
Reading JSON text.

`Json.read` takes strict JSON: no trailing commas, no comments, no lone surrogates. Arrays and objects may nest less
than `depthLimit` deep. Of equal names in an object the last counts, and the members come out sorted by name.
-/
import ScopedStore.Json.Basic

namespace ScopedStore

namespace JsonNumber

/-- the largest coefficient that is gathered from the digits -/
def coefficientLimit : Nat := UInt64.size

/-- digits of the whole part: the coefficient, and how many digits no longer fitted into it -/
def gatherWhole (coefficient : Nat) : List Char → Nat × Nat
  | [] => (coefficient, 0)
  | d :: ds =>
    let next := 10 * coefficient + (d.toNat - '0'.toNat)
    if next < coefficientLimit then gatherWhole next ds else (coefficient, ds.length + 1)

/-- digits after the point: the coefficient, and how many of the digits it took in -/
def gatherPlaces (coefficient places : Nat) : List Char → Nat × Nat
  | [] => (coefficient, places)
  | d :: ds =>
    let next := 10 * coefficient + (d.toNat - '0'.toNat)
    if next < coefficientLimit then gatherPlaces next (places + 1) ds else (coefficient, places)

/-- the double nearest to a power of ten -/
def powerOfTen (n : Nat) : Double := Double.ofDecimal false 1 n

/-- scales a double by a power of ten, in steps that are doubles themselves; there is no result beyond the range -/
def scale : Nat → Double → Int → Option Double
  | 0, value, _ => some value
  | fuel + 1, value, exponent =>
    if exponent.natAbs ≤ 308 then
      if 0 ≤ exponent then
        let scaled := value * powerOfTen exponent.natAbs
        if scaled.isFinite then some scaled else none
      else some (value / powerOfTen exponent.natAbs)
    else if value = Double.zero false then some value
    else if 0 ≤ exponent then none
    else scale fuel (value / powerOfTen 308) (exponent + 308)

/-- a double from a coefficient and a decimal exponent -/
def ofParts (negative : Bool) (coefficient : Nat) (exponent : Int) : Option Double :=
  (scale 4 (Double.ofInt coefficient) exponent).map fun value => if negative then -value else value

/-- an exponent after its mark: the sign, and the digits unless there are too many to count with -/
def readExponent (cs : List Char) : Option (Bool × Option Nat × List Char) :=
  let (negative, rest) := Text.splitSign cs
  let ds := rest.takeWhile Char.isDigit
  let n := Nat.ofDigitChars 10 ds 0
  if ds.isEmpty then none else some (negative, if n < 1 <<< 31 then some n else none, rest.dropWhile Char.isDigit)

/-- a number that has a point or an exponent, or too many digits for an integer -/
def readDouble (negative : Bool) (coefficient : Nat) (exponent : Int) (cs : List Char) :
    Option (JsonNumber × List Char) :=
  match cs with
  | c :: rest =>
    if c = 'e' ∨ c = 'E' then do
      let (below, digits, rest) ← readExponent rest
      match digits with
      | some n =>
        let value ← ofParts negative coefficient (if below then exponent - n else exponent + n)
        return (.double value, rest)
      | none =>
        if coefficient ≠ 0 ∧ !below then none else some (.double (Double.zero negative), rest)
    else (ofParts negative coefficient exponent).map fun value => (.double value, c :: rest)
  | [] => (ofParts negative coefficient exponent).map fun value => (.double value, [])

/-- a number at the front of the text -/
def read (cs : List Char) : Option (JsonNumber × List Char) :=
  let (negative, cs) := match cs with
    | '-' :: cs => (true, cs)
    | cs => (false, cs)
  let ds := cs.takeWhile Char.isDigit
  let rest := cs.dropWhile Char.isDigit
  if ds.isEmpty || (ds.head? = some '0' && ds.length > 1) then none
  else
    let (coefficient, dropped) := gatherWhole 0 ds
    match rest with
    | '.' :: after =>
      let places := after.takeWhile Char.isDigit
      if places.isEmpty then none
      else
        let (coefficient, taken) := gatherPlaces coefficient 0 places
        readDouble negative coefficient (dropped - taken) (after.dropWhile Char.isDigit)
    | c :: _ =>
      if c = 'e' ∨ c = 'E' ∨ dropped ≠ 0 then readDouble negative coefficient dropped rest
      else whole negative coefficient rest
    | [] => if dropped ≠ 0 then readDouble negative coefficient dropped rest else whole negative coefficient rest
where
  /-- digits alone: an integer, except for a negative zero and below the least integer -/
  whole (negative : Bool) (coefficient : Nat) (rest : List Char) : Option (JsonNumber × List Char) :=
    if !negative then some (.integer coefficient, rest)
    else if coefficient = 0 ∨ 1 <<< 63 < coefficient then some (.double (-Double.ofInt coefficient), rest)
    else some (.integer (-(coefficient : Int)), rest)

end JsonNumber

namespace Json

/-- how deep arrays and objects may nest -/
def depthLimit : Nat := 128

/-- blanks between the parts of a text -/
def skipBlanks (cs : List Char) : List Char :=
  cs.dropWhile fun c => c = ' ' || c = '\n' || c = '\t' || c = '\r'

/-- four hexadecimal digits -/
def hexUnit (cs : List Char) : Option (Nat × List Char) :=
  match cs with
  | a :: b :: c :: d :: rest => do
    let a ← Text.hexValue? a
    let b ← Text.hexValue? b
    let c ← Text.hexValue? c
    let d ← Text.hexValue? d
    return (((a * 16 + b) * 16 + c) * 16 + d, rest)
  | _ => none

/-- the character of a numbered escape; one above the basic plane is written as a pair of surrogates -/
def unicodeEscape (cs : List Char) : Option (Char × List Char) := do
  let (high, rest) ← hexUnit cs
  if 0xD800 ≤ high ∧ high < 0xDC00 then
    match rest with
    | '\\' :: 'u' :: rest => do
      let (low, rest) ← hexUnit rest
      if 0xDC00 ≤ low ∧ low < 0xE000 then
        return (Char.ofNat (0x10000 + (high - 0xD800) * 0x400 + (low - 0xDC00)), rest)
      else none
    | _ => none
  else if 0xDC00 ≤ high ∧ high < 0xE000 then none
  else return (Char.ofNat high, rest)

/-- what stands after a backslash -/
def escape (cs : List Char) : Option (Char × List Char) :=
  match cs with
  | '"' :: rest => some ('"', rest)
  | '\\' :: rest => some ('\\', rest)
  | '/' :: rest => some ('/', rest)
  | 'b' :: rest => some ('\x08', rest)
  | 'f' :: rest => some ('\x0c', rest)
  | 'n' :: rest => some ('\n', rest)
  | 'r' :: rest => some ('\r', rest)
  | 't' :: rest => some ('\t', rest)
  | 'u' :: rest => unicodeEscape rest
  | _ => none

/-- the rest of a string whose opening quote was read; `acc` holds its characters in reverse order -/
def stringBody : Nat → List Char → List Char → Option (String × List Char)
  | 0, _, _ => none
  | fuel + 1, acc, cs =>
    match cs with
    | [] => none
    | '"' :: rest => some (String.ofList acc.reverse, rest)
    | '\\' :: rest =>
      match escape rest with
      | none => none
      | some (c, rest) => stringBody fuel (c :: acc) rest
    | c :: rest => if c.toNat < 32 then none else stringBody fuel (c :: acc) rest

/-- a string with its quotes -/
def readString (cs : List Char) : Option (String × List Char) :=
  match cs with
  | '"' :: cs => stringBody (cs.length + 1) [] cs
  | _ => none

/-- a word and the value it stands for -/
def keyword (word : String) (value : Json) (cs : List Char) : Option (Json × List Char) :=
  if word.toList.isPrefixOf cs then some (value, cs.drop word.toList.length) else none

mutual

/-- a value at the front of the text; `depth` is what is left of the nesting limit -/
def value : Nat → Nat → List Char → Option (Json × List Char)
  | 0, _, _ => none
  | fuel + 1, depth, cs =>
    match skipBlanks cs with
    | [] => none
    | '"' :: rest => (readString ('"' :: rest)).map fun (s, rest) => (.string s, rest)
    | '[' :: rest =>
      if depth ≤ 1 then none
      else
        match skipBlanks rest with
        | ']' :: rest => some (.array [], rest)
        | rest => (items fuel (depth - 1) [] rest).map fun (xs, rest) => (.array xs, rest)
    | '\x7b' :: rest =>
      if depth ≤ 1 then none
      else
        match skipBlanks rest with
        | '\x7d' :: rest => some (.object [], rest)
        | rest => (members fuel (depth - 1) [] rest).map fun (ms, rest) => (ofMembers ms, rest)
    | c :: rest =>
      if c = 'n' then keyword "null" .null (c :: rest)
      else if c = 't' then keyword "true" (.bool true) (c :: rest)
      else if c = 'f' then keyword "false" (.bool false) (c :: rest)
      else (JsonNumber.read (c :: rest)).map fun (n, rest) => (.number n, rest)

/-- the items of an array up to its closing bracket; `acc` holds the earlier ones in reverse order -/
def items : Nat → Nat → List Json → List Char → Option (List Json × List Char)
  | 0, _, _, _ => none
  | fuel + 1, depth, acc, cs =>
    match value fuel depth cs with
    | none => none
    | some (item, rest) =>
      match skipBlanks rest with
      | ',' :: rest => items fuel depth (item :: acc) rest
      | ']' :: rest => some ((item :: acc).reverse, rest)
      | _ => none

/-- the members of an object up to its closing brace; `acc` holds the earlier ones in reverse order -/
def members : Nat → Nat → List (String × Json) → List Char → Option (List (String × Json) × List Char)
  | 0, _, _, _ => none
  | fuel + 1, depth, acc, cs =>
    match readString (skipBlanks cs) with
    | none => none
    | some (name, rest) =>
      match skipBlanks rest with
      | ':' :: rest =>
        match value fuel depth rest with
        | none => none
        | some (v, rest) =>
          match skipBlanks rest with
          | ',' :: rest => members fuel depth ((name, v) :: acc) rest
          | '\x7d' :: rest => some (((name, v) :: acc).reverse, rest)
          | _ => none
      | _ => none

end

/-- the value that a text writes, blanks around it allowed -/
def read (s : String) : Option Json :=
  let cs := s.toList
  match value (2 * cs.length + 2) depthLimit cs with
  | some (v, rest) => if (skipBlanks rest).isEmpty then some v else none
  | none => none

end Json
end ScopedStore
