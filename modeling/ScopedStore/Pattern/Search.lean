/-
Search for a regular expression in a text.

`lay` puts an expression over a text: what it asks of the characters becomes the set of the places where it holds. From
then on an expression is a map from sets of places to sets of places, and only such sets are worked on. A set of places
is a number with one bit for each place, so a step for all places at once is a few operations on numbers.

`Track.feed` sends places into a track and tells where they lead. A loop remembers the places it was entered from, and
entering it from one of them again adds nothing: over one search, what comes out of a track for all that was sent in is
what its expression reaches from there, and each place passes through each loop once, however deep the loops nest.
-/
import ScopedStore.Pattern.Regex

namespace ScopedStore.Pattern

/-- an expression laid over a text -/
inductive Track where
  /-- from each of the places `here` to the place `distance` further on -/
  | jump (here distance : Nat)
  | cat (a b : Track)
  | alt (a b : Track)
  /-- once or more -/
  | loop (a : Track)

/-- what a track remembers: the places that its loops were entered from -/
inductive Memory where
  | fresh
  | parts (a b : Memory)
  | loop (entered : Nat) (a : Memory)

/-- the number with these bits, the lowest first -/
def bits (bs : List Bool) : Nat := bs.foldr (fun b n => 2 * n + b.toNat) 0

/-- the places from 0 to `n` -/
def placesTo (n : Nat) : Nat := 1 <<< (n + 1) - 1

/-- the places of one set that are not in another -/
def without (places others : Nat) : Nat := (places ||| others) ^^^ others

/-- for each place of a text whether these characters begin there, the last place first, before what is known of the
places before -/
def beginnings (cs : List Char) : List Char → List Bool → List Bool
  | [], known => cs.isEmpty :: known
  | c :: text, known => beginnings cs text (cs.isPrefixOf (c :: text) :: known)

/-- the characters on either side of each place of a text -/
def sides (text : List Char) : List (Option Char × Option Char) :=
  (none :: text.map some).zip (text.map some ++ [none])

namespace Memory

/-- what the two parts of a track remember -/
def split : Memory → Memory × Memory
  | .parts a b => (a, b)
  | _ => (.fresh, .fresh)

/-- two parts as one; if neither remembers anything, nor does the whole -/
def both : Memory → Memory → Memory
  | .fresh, .fresh => .fresh
  | a, b => .parts a b

/-- the places that a loop was entered from, and what its inside remembers -/
def circled : Memory → Nat × Memory
  | .loop entered a => (entered, a)
  | _ => (0, .fresh)

end Memory

/-- rounds through a loop: places that it was not entered from go in, and what comes out goes in again. Each round but
the last adds a place, so `fuel` above the number of places is enough. -/
def circle (round : Memory → Nat → Memory × Nat) : Nat → Memory → Nat → Nat → Nat → Memory × Nat
  | 0, memory, entered, out, _ => (.loop entered memory, out)
  | fuel + 1, memory, entered, out, places =>
    let new := without places entered
    if new = 0 then (.loop entered memory, out)
    else
      let (memory, reached) := round memory new
      circle round fuel memory (entered ||| new) (out ||| reached) reached

namespace Track

/-- places sent into a track over a text of `size` characters, and where they lead -/
def feed (size : Nat) : Track → Memory → Nat → Memory × Nat
  | .jump here distance, memory, places => (memory, (places &&& here) <<< distance)
  | .cat a b, memory, places =>
    let (ma, mb) := memory.split
    let (ma, middle) := a.feed size ma places
    if middle = 0 then (.both ma mb, 0)
    else
      let (mb, out) := b.feed size mb middle
      (.both ma mb, out)
  | .alt a b, memory, places =>
    let (ma, mb) := memory.split
    let (ma, left) := a.feed size ma places
    let (mb, right) := b.feed size mb places
    (.both ma mb, left ||| right)
  | .loop a, memory, places =>
    let (entered, inside) := memory.circled
    circle (a.feed size) (size + 2) inside entered 0 places

/-- the places that the track reaches from a set of places -/
def reach (size : Nat) (t : Track) (places : Nat) : Nat := (t.feed size .fresh places).2

/-- staying in place, over a text of `size` characters -/
def stay (size : Nat) : Track := .jump (placesTo size) 0

/-- `n` times the track, `n` being below `2 ^ k`; halves that are alike are one -/
def power (size : Nat) (t : Track) : Nat → Nat → Track
  | 0, _ => stay size
  | k + 1, n =>
    if n = 0 then stay size
    else if n = 1 then t
    else
      let half := t.power size k (n / 2)
      if n % 2 = 0 then .cat half half else .cat (.cat half half) t

/-- the track so many times -/
def times (size : Nat) (t : Track) (n : Nat) : Track := t.power size (n.log2 + 1) n

/-- the track at least `low` times, and at most `high` times if there is such a bound -/
def repeated (size : Nat) (t : Track) (low : Nat) : Option Nat → Track
  | some high => .cat (t.times size low) ((Track.alt (stay size) t).times size (high - low))
  | none =>
    if low = 0 then .alt (stay size) (.loop t)
    else if low = 1 then .loop t
    else .cat (t.times size (low - 1)) (.loop t)

end Track

namespace Regex

/-- the expression reads no character, wherever it is -/
def isStill : Regex → Bool
  | .empty => true
  | .literal cs => cs.isEmpty
  | .set _ _ => false
  | .look _ => true
  | .cat a b => a.isStill && b.isStill
  | .alt a b => a.isStill && b.isStill
  | .repeated a _ high _ => a.isStill || high == some 0
  | .group _ a => a.isStill

/-- the expression laid over a text. To repeat what reads no character more than once adds nothing, and what is
repeated no time at all does not count. -/
def lay (text : List Char) : Regex → Track
  | .empty => .stay text.length
  | .literal cs => .jump (bits (beginnings cs text []).reverse) cs.length
  | .set _ s => .jump (bits (text.map s.contains)) 1
  | .look l => .jump (bits ((sides text).map fun (before, after) => l.holds before after)) 0
  | .cat a b => .cat (a.lay text) (b.lay text)
  | .alt a b => .alt (a.lay text) (b.lay text)
  | .repeated a low high _ =>
    if high = some 0 then .stay text.length
    else if a.isStill then
      if low = 0 then .stay text.length else a.lay text
    else (a.lay text).repeated text.length low high
  | .group _ a => a.lay text

/-- the expression reads some stretch of the text -/
def occursIn (r : Regex) (text : List Char) : Bool :=
  (r.lay text).reach text.length (placesTo text.length) != 0

end Regex
end ScopedStore.Pattern
