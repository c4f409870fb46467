/-
Numbers as the command language and the counters see them: 64-bit integers and doubles.

A text with a fractional mark is read as a double and any other text as an integer, so `15` and `15.0` stay different
numbers. `render` gives the canonical text of either.
-/
import ScopedStore.Number.Decimal

namespace ScopedStore

/-- an integer or a double -/
inductive Number where
  | int (value : Int64)
  | double (value : Double)
  deriving DecidableEq

namespace Number

/-- the 64-bit integer of that value, when it is in range -/
def int64? (i : Int) : Option Int64 :=
  if -0x8000000000000000 ≤ i ∧ i < 0x8000000000000000 then some (Int64.ofInt i) else none

/-- a 64-bit integer with an optional sign -/
def readInt64 (s : String) : Option Int64 := (Text.readInt s.toList).bind int64?

/-- canonical text of a 64-bit integer -/
def writeInt64 (i : Int64) : String := String.ofList (Text.intDigits i.toInt)

/-- the text has a point, an exponent mark, or one of the words for infinity and NaN -/
def hasFractionalMark (s : String) : Bool :=
  let cs := s.toList.map Char.toLower
  cs.contains '.' || cs.contains 'e' || Text.contains "inf".toList cs || Text.contains "nan".toList cs

/-- an integer unless the text has a fractional mark -/
def read (s : String) : Option Number :=
  if hasFractionalMark s then (Double.read s).map .double else (readInt64 s).map .int

/-- canonical text -/
def render : Number → String
  | .int i => writeInt64 i
  | .double d => d.write

/-- the value as a double, rounded when an integer has more than 53 bits -/
def toDouble : Number → Double
  | .int i => Double.ofInt i.toInt
  | .double d => d

/-- the opposite number; the least integer has none -/
def neg? : Number → Option Number
  | .int i => (int64? (-i.toInt)).map .int
  | .double d => some (.double (-d))

/-- integer addition when both are integers, and then only within range; floating addition otherwise -/
def add? : Number → Number → Option Number
  | .int a, .int b => (int64? (a.toInt + b.toInt)).map .int
  | a, b => some (.double (a.toDouble + b.toDouble))

/-- digits alone, after an optional minus sign -/
def isIntegerLiteral (s : String) : Bool :=
  match s.toList with
  | '-' :: cs => !cs.isEmpty && cs.all Char.isDigit
  | cs => !cs.isEmpty && cs.all Char.isDigit

end Number

end ScopedStore
