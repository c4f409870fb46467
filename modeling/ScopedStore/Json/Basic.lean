/-
JSON values and their compact text.

`Json.write` prints a value without blanks, the members of an object in the order they have in the value;
`Json.ofMembers` is the object whose members are sorted by name, the last of equal names counting.
-/
import ScopedStore.Number.Decimal

namespace ScopedStore

/-- a number of a JSON text -/
inductive JsonNumber where
  /-- within the range of signed or unsigned 64-bit integers -/
  | integer (value : Int)
  | double (value : Double)
  deriving DecidableEq

/-- a JSON value -/
inductive Json where
  | null
  | bool (value : Bool)
  | number (value : JsonNumber)
  | string (value : String)
  | array (items : List Json)
  | object (members : List (String × Json))

namespace JsonNumber

/-- the digits of a double around their point, or with an exponent when the first digit stands at `10 ^ 16` or higher,
or below `10 ^ -5` -/
def layout (ds : List Char) (point : Int) : List Char :=
  if -5 < point ∧ point ≤ 16 then Double.positional ds point
  else
    let exponent := point - 1
    let sign := if exponent < 0 then ['e', '-'] else ['e', '+']
    let coefficient := match ds with
      | [] => []
      | [d] => [d]
      | d :: places => d :: '.' :: places
    coefficient ++ sign ++ Text.natDigits exponent.natAbs

/-- the magnitude of a double, with the fewest digits that read back -/
def writeMagnitude (magnitude : Fin magnitudeCount) : List Char :=
  if magnitude.val = 0 then "0.0".toList
  else
    let (coefficient, exponent) := Double.digits .even magnitude
    let (ds, point) := Double.placed coefficient exponent
    layout ds point

/-- a number as JSON text; what is not finite has no number and is written as null -/
def write : JsonNumber → List Char
  | .integer i => Text.intDigits i
  | .double (.finite negative magnitude) =>
    if negative then '-' :: writeMagnitude magnitude else writeMagnitude magnitude
  | .double _ => "null".toList

end JsonNumber

namespace Json

/-- a hexadecimal digit, in lower case -/
def hexDigit (n : Nat) : Char := Nat.digitChar (n % 16)

/-- one character of a string: quotes, backslashes and control characters are escaped -/
def escapeChar (c : Char) : List Char :=
  if c = '"' then ['\\', '"']
  else if c = '\\' then ['\\', '\\']
  else if c = '\n' then ['\\', 'n']
  else if c = '\r' then ['\\', 'r']
  else if c = '\t' then ['\\', 't']
  else if c = '\x08' then ['\\', 'b']
  else if c = '\x0c' then ['\\', 'f']
  else if c.toNat < 32 then ['\\', 'u', '0', '0', hexDigit (c.toNat / 16), hexDigit c.toNat]
  else [c]

/-- a string in quotes -/
def writeString (s : String) : List Char := '"' :: s.toList.flatMap escapeChar ++ ['"']

mutual

/-- a value as compact text -/
def write : Json → List Char
  | .null => "null".toList
  | .bool value => if value then "true".toList else "false".toList
  | .number value => value.write
  | .string value => writeString value
  | .array items => '[' :: writeItems items ++ [']']
  | .object members => '\x7b' :: writeMembers members ++ ['\x7d']

/-- the items of an array, commas between them -/
def writeItems : List Json → List Char
  | [] => []
  | [item] => write item
  | item :: items => write item ++ ',' :: writeItems items

/-- the members of an object, commas between them -/
def writeMembers : List (String × Json) → List Char
  | [] => []
  | [(name, value)] => writeString name ++ ':' :: write value
  | (name, value) :: members => writeString name ++ ':' :: write value ++ ',' :: writeMembers members

end

/-- a value as compact text -/
def text (value : Json) : String := String.ofList value.write

/-- a member put in its place among sorted ones; it takes the place of one with the same name -/
def insertMember (name : String) (value : Json) : List (String × Json) → List (String × Json)
  | [] => [(name, value)]
  | (n, v) :: members =>
    match compare name n with
    | .lt => (name, value) :: (n, v) :: members
    | .eq => (name, value) :: members
    | .gt => (n, v) :: insertMember name value members

/-- the object with these members, sorted by name; the last of equal names counts -/
def ofMembers (members : List (String × Json)) : Json :=
  .object (members.foldl (fun sorted (name, value) => insertMember name value sorted) [])

/-- text, or null for nothing -/
def ofOption : Option String → Json
  | none => .null
  | some s => .string s

/-- a natural number -/
def ofNat (n : Nat) : Json := .number (.integer n)

end Json
end ScopedStore
