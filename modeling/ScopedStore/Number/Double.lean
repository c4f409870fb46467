/-
Binary floating point in double precision, computed exactly.

A finite double is a sign and a magnitude; the magnitudes `0, 1, 2, …` number the representable values in increasing
order, and `units` gives each one as a whole multiple of the smallest positive value `2^-1074`. Every operation is
the exact one followed by `ofUnits`, which rounds a quotient to the nearest representable value, a tie to the even
magnitude.
-/

namespace ScopedStore

/-- how many magnitudes there are from one power of two to the next -/
abbrev binade : Nat := 0x10000000000000

/-- how many finite magnitudes there are -/
abbrev magnitudeCount : Nat := 2047 * binade

/-- a double; all results that are not a number are one value -/
inductive Double where
  | nan
  | infinite (negative : Bool)
  | finite (negative : Bool) (magnitude : Fin magnitudeCount)
  deriving DecidableEq

namespace Double

/-- `1` in multiples of the smallest positive value -/
abbrev unitsPerOne : Nat := 1 <<< 1074

/-- the value of a magnitude in multiples of the smallest positive value -/
def units (magnitude : Nat) : Nat :=
  if magnitude < 2 * binade then magnitude
  else (binade + magnitude % binade) <<< (magnitude / binade - 1)

/-- a quotient rounded to the nearest whole number, a half to the even one -/
def divRound (num den : Nat) : Nat :=
  let quotient := num / den
  let rest := num % den
  if 2 * rest < den then quotient
  else if den < 2 * rest then quotient + 1
  else quotient + quotient % 2

/-- the magnitude nearest to `num / den` units, as if there were no largest one -/
def nearest (num den : Nat) : Nat :=
  let shift := (num / den).log2 + 1 - 53
  shift * binade + divRound num (den <<< shift)

/-- the double nearest to `num / den` units -/
def ofUnits (negative : Bool) (num den : Nat) : Double :=
  if h : nearest num den < magnitudeCount then .finite negative ⟨nearest num den, h⟩ else .infinite negative

/-- zero with a sign -/
def zero (negative : Bool) : Double := .finite negative ⟨0, by decide⟩

/-- the double nearest to an integer -/
def ofInt (i : Int) : Double := ofUnits (i < 0) (i.natAbs * unitsPerOne) 1

/-- the units of a finite double, with its sign -/
def signedUnits (negative : Bool) (magnitude : Nat) : Int :=
  if negative then -(units magnitude : Int) else (units magnitude : Int)

/-- the same value with the other sign -/
def neg : Double → Double
  | .nan => .nan
  | .infinite s => .infinite !s
  | .finite s m => .finite (!s) m

instance : Neg Double := ⟨neg⟩

/-- sum; a sum of opposite values is a positive zero -/
def add : Double → Double → Double
  | .nan, _ => .nan
  | _, .nan => .nan
  | .infinite s, .infinite t => if s = t then .infinite s else .nan
  | .infinite s, .finite _ _ => .infinite s
  | .finite _ _, .infinite t => .infinite t
  | .finite s a, .finite t b =>
    let sum := signedUnits s a + signedUnits t b
    if sum = 0 then zero (s && t) else ofUnits (sum < 0) sum.natAbs 1

instance : Add Double := ⟨add⟩

/-- product -/
def mul : Double → Double → Double
  | .nan, _ => .nan
  | _, .nan => .nan
  | .infinite s, .infinite t => .infinite (s != t)
  | .infinite s, .finite t b => if b.val = 0 then .nan else .infinite (s != t)
  | .finite s a, .infinite t => if a.val = 0 then .nan else .infinite (s != t)
  | .finite s a, .finite t b => ofUnits (s != t) (units a * units b) unitsPerOne

instance : Mul Double := ⟨mul⟩

/-- quotient -/
def div : Double → Double → Double
  | .nan, _ => .nan
  | _, .nan => .nan
  | .infinite _, .infinite _ => .nan
  | .infinite s, .finite t _ => .infinite (s != t)
  | .finite s _, .infinite t => zero (s != t)
  | .finite s a, .finite t b =>
    if b.val = 0 then (if a.val = 0 then .nan else .infinite (s != t))
    else ofUnits (s != t) (units a * unitsPerOne) (units b)

instance : Div Double := ⟨div⟩

/-- neither infinite nor NaN -/
def isFinite : Double → Bool
  | .finite _ _ => true
  | _ => false

end Double

end ScopedStore
