/-
Ranges of code points as sequences of ranges of octets.

`octetSequences` cuts a range of code points into stretches whose UTF-8 forms are all the combinations of octets that
one sequence of octet ranges allows: a stretch does not cross a change of width or the surrogates, and where a leading
octet changes, each later octet takes all its values.
-/
import ScopedStore.Pattern.Normal

namespace ScopedStore.Pattern

/-- a range of octets -/
abbrev OctetRange := Nat × Nat

/-- the octets of a code point -/
def octets (n : Nat) : List Nat :=
  if n < 0x80 then [n]
  else if n < 0x800 then [0xC0 + n / 0x40, 0x80 + n % 0x40]
  else if n < 0x10000 then [0xE0 + n / 0x1000, 0x80 + n / 0x40 % 0x40, 0x80 + n % 0x40]
  else [0xF0 + n / 0x40000, 0x80 + n / 0x1000 % 0x40, 0x80 + n / 0x40 % 0x40, 0x80 + n % 0x40]

/-- where a range is cut first, if it has to be: the last code point of the front part and the first one of the rest.
Surrogates come before widths, and the last octets before those that lead them. -/
def firstCut (low high : Nat) : Option (Nat × Nat) :=
  if low < 0xE000 ∧ 0xD7FF < high then some (0xD7FF, 0xE000)
  else
    match [0x7F, 0x7FF, 0xFFFF].find? fun last => decide (low ≤ last ∧ last < high) with
    | some last => some (last, last + 1)
    | none =>
      if high < 0x80 then none
      else
        [0x40, 0x1000, 0x40000].findSome? fun block =>
          if low / block = high / block then none
          else if low % block ≠ 0 then some (low / block * block + block - 1, low / block * block + block)
          else if high % block ≠ block - 1 then some (high / block * block - 1, high / block * block)
          else none

/-- the sequences of octet ranges for a range of code points, in order. No stretch comes from more than ten cuts: one at
the surrogates, three by width, and two for each of the three later octets. -/
def sequencesFrom : Nat → Nat → Nat → List (List OctetRange)
  | 0, low, high => [(octets low).zip (octets high)]
  | fuel + 1, low, high =>
    match firstCut low high with
    | none => [(octets low).zip (octets high)]
    | some (last, next) => sequencesFrom fuel low last ++ sequencesFrom fuel next high

/-- the sequences of octet ranges for a set of characters, in order -/
def octetSequences (s : CharSet) : List (List OctetRange) := s.ranges.flatMap fun r => sequencesFrom 10 r.1 r.2

end ScopedStore.Pattern
