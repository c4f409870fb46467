/-
Doubles as decimal text.

Reading rounds the written decimal to the nearest double. Writing looks for the fewest digits that read back as the
same double and, among those, for the ones nearest to its value; `Tie` settles which of two equally near ones is
taken. `digits` falls back on the full decimal expansion, which always reads back.
-/
import ScopedStore.Number.Double
import ScopedStore.Text

namespace ScopedStore.Double

/-! ## Reading -/

/-- the double nearest to `coefficient * 10 ^ exponent`; exponents far outside the range are settled at once -/
def ofDecimal (negative : Bool) (coefficient : Nat) (exponent : Int) : Double :=
  if coefficient = 0 then zero negative
  else if 400 < exponent then .infinite negative
  else if coefficient.log2 + 1200 < 3 * (-exponent) then zero negative
  else if 0 ≤ exponent then ofUnits negative (coefficient * Nat.pow 10 exponent.toNat * unitsPerOne) 1
  else ofUnits negative (coefficient * unitsPerOne) (Nat.pow 10 (-exponent).toNat)

/-- digits with an optional point; gives the coefficient, the number of places after the point, and the rest -/
def readMantissa (cs : List Char) : Option (Nat × Nat × List Char) :=
  let whole := cs.takeWhile Char.isDigit
  let rest := cs.dropWhile Char.isDigit
  let (places, rest) :=
    match rest with
    | '.' :: after => (after.takeWhile Char.isDigit, after.dropWhile Char.isDigit)
    | _ => ([], rest)
  if whole.isEmpty && places.isEmpty then none
  else some (Nat.ofDigitChars 10 (whole ++ places) 0, places.length, rest)

/-- the exponent after the digits: nothing, or a mark and an integer -/
def readExponent : List Char → Option Int
  | [] => some 0
  | c :: cs => if c = 'e' ∨ c = 'E' then Text.readInt cs else none

/-- a decimal without its sign -/
def readUnsigned (negative : Bool) (cs : List Char) : Option Double := do
  let (coefficient, places, rest) ← readMantissa cs
  let exponent ← readExponent rest
  return ofDecimal negative coefficient (exponent - places)

/-- the words for the doubles that no digits write, in any mixture of cases -/
def readWord (negative : Bool) (cs : List Char) : Option Double :=
  let word := cs.map Char.toLower
  if word = "nan".toList then some .nan
  else if word = "inf".toList ∨ word = "infinity".toList then some (.infinite negative)
  else none

/-- a double as text: an optional sign, then a decimal or a word -/
def read (s : String) : Option Double :=
  let (negative, cs) := Text.splitSign s.toList
  (readUnsigned negative cs).or (readWord negative cs)

/-! ## Writing -/

/-- which of two equally near decimals is written -/
inductive Tie where
  | up
  | even
  deriving DecidableEq

/-- the decimal exponent of a positive number of units: that of its first digit -/
def leadingExponent (u : Nat) : Int :=
  if unitsPerOne ≤ u then (Text.natDigits (u / unitsPerOne)).length - 1
  else -((Text.natDigits ((unitsPerOne - 1) / u)).length : Int)

/-- the whole numbers of `10 ^ exponent` on either side of `u` units, the nearer one first -/
def neighbours (tie : Tie) (u : Nat) (exponent : Int) : List Nat :=
  let num := if 0 ≤ exponent then u else u * Nat.pow 10 (-exponent).toNat
  let den := if 0 ≤ exponent then unitsPerOne * Nat.pow 10 exponent.toNat else unitsPerOne
  let low := num / den
  let rest := 2 * (num % den)
  let lowFirst := rest < den ∨ (rest = den ∧ tie = .even ∧ low % 2 = 0)
  if lowFirst then [low, low + 1] else [low + 1, low]

/-- a coefficient of `10 ^ exponent` that reads back as the magnitude -/
def coefficient? (tie : Tie) (magnitude : Fin magnitudeCount) (exponent : Int) : Option (Nat × Int) :=
  ((neighbours tie (units magnitude) exponent).find? fun c =>
    ofDecimal false c exponent = .finite false magnitude).map (·, exponent)

/-- a coefficient and a decimal exponent for a magnitude: the fewest digits that read back -/
def digits (tie : Tie) (magnitude : Fin magnitudeCount) : Nat × Int :=
  let first := leadingExponent (units magnitude)
  ((List.range 17).findSome? fun (i : Nat) => coefficient? tie magnitude (first - i)).getD
    (units magnitude * Nat.pow 5 1074, -1074)

/-- digits without their trailing zeros, and the place of the point counted from the first digit -/
def placed (coefficient : Nat) (exponent : Int) : List Char × Int :=
  let all := Text.natDigits coefficient
  ((all.reverse.dropWhile (· = '0')).reverse, all.length + exponent)

/-- digits written out around their point, with a digit on each side of it -/
def positional (ds : List Char) (point : Int) : List Char :=
  if point ≤ 0 then "0.".toList ++ List.replicate (-point).toNat '0' ++ ds
  else
    let whole := ds.take point.toNat
    let places := ds.drop point.toNat
    whole ++ List.replicate (point.toNat - whole.length) '0' ++ '.' :: (if places.isEmpty then ['0'] else places)

/-- the magnitude as text: shortest digits, no exponent, always a fractional part -/
def writeMagnitude (magnitude : Fin magnitudeCount) : List Char :=
  if magnitude.val = 0 then "0.0".toList
  else
    let (coefficient, exponent) := digits .up magnitude
    let (ds, point) := placed coefficient exponent
    positional ds point

/-- the canonical text of a double -/
def write : Double → String
  | .nan => "NaN"
  | .infinite negative => if negative then "-inf" else "inf"
  | .finite negative magnitude =>
    String.ofList (if negative then '-' :: writeMagnitude magnitude else writeMagnitude magnitude)

end ScopedStore.Double
