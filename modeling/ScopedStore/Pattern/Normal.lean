/-
Normal form of regular expressions.

`Regex.normal` writes an expression in a plainer way that reads the same: parentheses without a number are gone,
neighbouring literals are one, alternatives between single characters or sets are one set, what all alternatives begin
with stands before them, and repetitions that repeat nothing are gone. How large the automaton of an expression is
depends on its normal form.
-/
import ScopedStore.Pattern.Regex

namespace ScopedStore.Pattern

/-- the number of octets that a code point takes -/
def octetWidth (n : Nat) : Nat := if n < 0x80 then 1 else if n < 0x800 then 2 else if n < 0x10000 then 3 else 4

namespace Regex

/-- the number of octets that characters take -/
def octetLength (cs : List Char) : Nat := cs.foldl (fun n c => n + octetWidth c.toNat) 0

/-- no more octets than this are needed for a match; nothing if there may be no match -/
def leastLength : Regex → Option Nat
  | .empty => some 0
  | .literal cs => some (octetLength cs)
  | .set _ s => s.ranges.head?.map fun r => octetWidth r.1
  | .look _ => some 0
  | .cat a b => do return (← a.leastLength) + (← b.leastLength)
  | .alt a b => do return min (← a.leastLength) (← b.leastLength)
  | .repeated a low _ _ => do return (← a.leastLength) * low
  | .group _ a => a.leastLength

/-- no match takes more octets than this; nothing if there is no bound, or there may be no match -/
def greatestLength : Regex → Option Nat
  | .empty => some 0
  | .literal cs => some (octetLength cs)
  | .set _ s => s.ranges.getLast?.map fun r => octetWidth r.2
  | .look _ => some 0
  | .cat a b => do return (← a.greatestLength) + (← b.greatestLength)
  | .alt a b => do return max (← a.greatestLength) (← b.greatestLength)
  | .repeated a _ high _ => do return (← a.greatestLength) * (← high)
  | .group _ a => a.greatestLength

/-- the number of constructors -/
def size : Regex → Nat
  | .cat a b => a.size + b.size + 1
  | .alt a b => a.size + b.size + 1
  | .repeated a _ _ _ => a.size + 1
  | .group _ a => a.size + 1
  | _ => 1

/-! ## Normal forms of larger expressions from those of their parts -/

/-- the set that no character is in -/
def fail : Regex := .set true .none

/-- a set; a set of one character is a literal -/
def normalSet (octets : Bool) (s : CharSet) : Regex :=
  if s.ranges.isEmpty then fail
  else
    match s.only? with
    | some c => .literal [c]
    | none => .set octets s

/-- one expression before another, both in normal form -/
def normalCat : Regex → Regex → Regex
  | .empty, r => r
  | .cat a b, r => a.normalCat (b.normalCat r)
  | .literal cs, .literal ds => .literal (cs ++ ds)
  | .literal cs, .cat (.literal ds) r => .cat (.literal (cs ++ ds)) r
  | a, .empty => a
  | a, r => .cat a r

/-- the expressions that a normal form has one after the other, if there are two or more -/
def factors : Regex → List Regex
  | .cat a b =>
    match b with
    | .cat _ _ => a :: b.factors
    | _ => [a, b]
  | _ => []

/-- the alternatives of a normal form -/
def branches : Regex → List Regex
  | .alt a b => a :: b.branches
  | r => [r]

/-- what two lists begin with in common -/
def commonFront : List Regex → List Regex → List Regex
  | a :: as, b :: bs => if a = b then a :: commonFront as bs else []
  | _, _ => []

/-- what all branches begin with, as a list of expressions one after the other -/
def sharedFront : List Regex → List Regex
  | [] => []
  | r :: rs => rs.foldl (fun front r => commonFront front r.factors) r.factors

/-- the only character that the expression reads, if it is a literal of one -/
def char? : Regex → Option Char
  | .literal [c] => some c
  | _ => none

/-- the set, if the expression is one -/
def set? : Regex → Option CharSet
  | .set _ s => some s
  | _ => none

/-- alternatives in normal form. `fuel` bounds how often a shared front is taken out; each time all branches get
shorter. -/
def normalAlt : Nat → List Regex → Regex
  | fuel, rs =>
    match rs.flatMap branches with
    | [] => fail
    | [r] => r
    | r :: rs =>
      match (r :: rs).mapM char?, (r :: rs).mapM set? with
      | some cs, _ => normalSet false (.ofRanges (cs.map fun c => (c.toNat, c.toNat)))
      | _, some sets => normalSet false (sets.foldl .union .none)
      | none, none =>
        let front := sharedFront (r :: rs)
        match fuel, front with
        | fuel + 1, _ :: _ =>
          let rests := (r :: rs).map fun r => (r.factors.drop front.length).foldr normalCat .empty
          front.foldr normalCat (normalAlt fuel rests)
        | _, _ => rs.foldr (fun r more last => .alt last (more r)) id r

/-- an expression in normal form, repeated. What reads nothing is repeated once at most. -/
def normalRepeated (a : Regex) (low : Nat) (high : Option Nat) (greedy : Bool) : Regex :=
  let (low, high) :=
    if a.greatestLength = some 0 then (min low 1, some (min (high.getD 1) 1)) else (low, high)
  if high = some 0 then .empty
  else if low = 1 ∧ high = some 1 then a
  else .repeated a low high greedy

/-- the normal forms of the alternatives of an expression -/
def normalBranches : Regex → List Regex
  | .empty => [.empty]
  | .literal cs => [if cs.isEmpty then .empty else .literal cs]
  | .set octets s => [normalSet octets s]
  | .look l => [.look l]
  | .cat a b => [(normalAlt a.size a.normalBranches).normalCat (normalAlt b.size b.normalBranches)]
  | .alt a b => a.normalBranches ++ b.normalBranches
  | .repeated a low high greedy => [(normalAlt a.size a.normalBranches).normalRepeated low high greedy]
  | .group none a => [normalAlt a.size a.normalBranches]
  | .group (some n) a => [.group (some n) (normalAlt a.size a.normalBranches)]

/-- the normal form -/
def normal (r : Regex) : Regex := normalAlt r.size r.normalBranches

end Regex
end ScopedStore.Pattern
