/-
Size of the automata of a regular expression.

An expression is run by two automata over octets: one reads a text from its front and marks the numbered groups, the
other reads from the back and marks nothing. A state takes 32 octets, a transition of a state with several of them
takes 8 more, and an alternative of a branching state takes 4 more. An expression `fits` when neither automaton takes
more than `sizeLimit`.

A set of characters beyond ASCII takes many states, of which those that lead alike are one as far as a cache of fixed
size remembers them. So what a set takes depends a little on the number of states before it, and the states have to be
counted one after the other. `weight` is a bound that is cheap to work out: an expression below the limit by weight is
below it by size.
-/
import ScopedStore.Pattern.Octets

namespace ScopedStore.Pattern

/-- the octets that an automaton may take -/
def sizeLimit : Nat := 10 <<< 20

/-- the states of an automaton so far, and the octets that they take -/
structure Tally where
  states : Nat := 0
  octets : Nat := 0

namespace Tally

/-- one more state, with `extra` octets of its own -/
def state (t : Tally) (extra : Nat) : Tally := ⟨t.states + 1, t.octets + 32 + extra⟩

/-- several states without anything of their own -/
def plainStates (t : Tally) (n : Nat) : Tally := ⟨t.states + n, t.octets + 32 * n⟩

/-- more octets for a state that is there already -/
def charge (t : Tally) (octets : Nat) : Tally := { t with octets := t.octets + octets }

/-- a way on from a state; if the state branches, the way is one more alternative -/
def link (t : Tally) (branching : Bool) : Tally := if branching then t.charge 4 else t

/-- more than an automaton may take -/
def isFull (t : Tally) : Bool := sizeLimit < t.octets

end Tally

/-! ## Sets of characters -/

/-- states that lead alike are one: a cache with a fixed number of slots tells a state from what it leads to. A later
state may take the slot of an earlier one, which is then forgotten. -/
structure Sharing where
  slots : Array (Option (List Nat × Nat))
  tally : Tally

/-- a number that depends on all of a list, by multiplication with a prime modulo `2 ^ 64` -/
def scatter (ns : List Nat) : UInt64 :=
  ns.foldl (fun h n => (h ^^^ UInt64.ofNat n) * 1099511628211) 14695981039346656037

/-- the state that leads as `key` tells, a new one if it is not remembered; it has `extra` octets of its own -/
def Sharing.state (s : Sharing) (key : List Nat) (extra : Nat) : Sharing × Nat :=
  let slot := (scatter key).toNat % s.slots.size
  match s.slots[slot]? with
  | some (some (known, number)) =>
    if known = key then (s, number)
    else (⟨s.slots.setIfInBounds slot (some (key, s.tally.states)), s.tally.state extra⟩, s.tally.states)
  | _ => (⟨s.slots.setIfInBounds slot (some (key, s.tally.states)), s.tally.state extra⟩, s.tally.states)

/-- a state that is not finished: its transitions so far, each as its two ends and the state it leads to, the last
first, and the octets of the one whose target is not known yet -/
structure Pending where
  done : List Nat := []
  last : Option OctetRange

/-- the transitions of a state when the last one leads to `target` -/
def Pending.close (p : Pending) (target : Nat) : List Nat :=
  match p.last with
  | none => p.done
  | some (low, high) => target :: high :: low :: p.done

/-- a path of unfinished states, each leading to the next and the last one to `target`, all finished from the back;
gives the state of the first -/
def finish (target : Nat) : List Pending → Sharing → Sharing × Nat
  | [], s => (s, target)
  | p :: path, s =>
    let (s, next) := finish target path s
    let transitions := (p.close next).reverse
    s.state transitions (transitions.length / 3 * 8)

/-- a path with one more sequence: as far as the path goes the same way it stays, and the rest of it is finished -/
def extend (target : Nat) : List Pending → List OctetRange → Sharing → List Pending × Sharing
  | p :: path, r :: rs, s =>
    if p.last = some r then
      let (path, s) := extend target path rs s
      (p :: path, s)
    else
      let (s, next) := finish target path s
      (⟨p.close next, some r⟩ :: rs.map fun r => ⟨[], some r⟩, s)
  | path, _, s => (path, s)

/-- a set of characters read from the front: sequences share what they begin with, and states that lead alike are one -/
def Tally.setForward (t : Tally) (s : CharSet) : Tally :=
  let target := t.states
  let start : List Pending × Sharing := ([⟨[], none⟩], ⟨Array.replicate 10000 none, t.state 0⟩)
  let (path, sharing) := (octetSequences s).foldl (fun (path, sharing) rs => extend target path rs sharing) start
  (finish target path sharing).1.tally

/-- a set of characters read from the back: a branching state leads to the last octets of each sequence, and sequences
share what they begin with -/
def Tally.setBackward (t : Tally) (s : CharSet) : Tally :=
  let final := t.states + 1
  let start : Sharing := ⟨Array.replicate 1000 none, (t.state 0).state 0⟩
  let sharing := (octetSequences s).foldl
    (fun sharing rs =>
      let (sharing, _) := rs.foldl (fun (sharing, next) r => sharing.state [next, r.1, r.2] 0) (sharing, final)
      { sharing with tally := sharing.tally.charge 4 })
    start
  sharing.tally

/-- a set of characters -/
def Tally.set (t : Tally) (backward octets : Bool) (s : CharSet) : Tally :=
  if octets || s.isAscii then (t.state 0).state (8 * s.ranges.length)
  else if backward then t.setBackward s
  else t.setForward s

/-! ## Alternatives between literals -/

/-- words between two that end: the words of each stretch of a list that holds no empty word, and the number of empty
words, where those before the first word that goes on count once -/
def stretchesOf (words : List (List Nat)) : List (List (List Nat)) × Nat :=
  let front := words.takeWhile List.isEmpty
  let rest := words.drop front.length
  (rest.splitBy fun a b => a.isEmpty == b.isEmpty, min 1 front.length + rest.countP List.isEmpty)

/-- the words by their first octet, without it -/
def byFirst (words : List (List Nat)) : List (List (List Nat)) :=
  let firsts := (words.filterMap List.head?).eraseDups
  firsts.map fun first => (words.filter fun w => w.head? == some first).map (List.drop 1)

/-- the states for what words share from the front. `fuel` is more than the length of each. Words that end where others
go on part these: what comes after is not joined with what came before. -/
def Tally.words : Nat → List (List Nat) → Tally → Tally
  | 0, _, t => t
  | fuel + 1, words, t =>
    if words.all List.isEmpty then t
    else
      let (all, ends) := stretchesOf words
      let chunks := (all.filter fun chunk => !chunk.all List.isEmpty).map byFirst
      let t := t.state (4 * (chunks.length + ends))
      chunks.foldl
        (fun t chunk =>
          let t := t.state (if chunk.length = 1 then 0 else 8 * chunk.length)
          chunk.foldl (fun t group => Tally.words fuel group t) t)
        t

/-! ## Expressions -/

/-- `n` copies one after the other, after a state that branches or does not -/
def copies (copy : Tally → Tally × Bool) : Nat → Tally → Bool → Tally × Bool
  | 0, t, branching => (t, branching)
  | n + 1, t, branching =>
    if t.isFull then (t, branching)
    else
      let (t, next) := copy (t.link branching)
      copies copy n t next

/-- `n` copies one after the other, of which each may be the first one left out -/
def optionalCopies (copy : Tally → Tally × Bool) : Nat → Tally → Bool → Tally
  | 0, t, branching => t.link branching
  | n + 1, t, branching =>
    if t.isFull then t
    else
      let (t, next) := copy (((t.link branching).state 0).charge 8)
      optionalCopies copy n t next

/-- `n` copies one after the other; none is a state of its own -/
def exactCopies (copy : Tally → Tally × Bool) (n : Nat) (t : Tally) : Tally × Bool :=
  if n = 0 then (t.state 0, false) else copies copy n t false

/-- a repetition; `moves` tells that each copy takes an octet at least -/
def repeatedCopies (copy : Tally → Tally × Bool) (moves : Bool) (low : Nat) (high : Option Nat) (t : Tally) :
    Tally × Bool :=
  match high with
  | some high =>
    if low = 0 ∧ high = 1 then
      let (t, branching) := copy (t.state 0)
      (((t.state 0).charge 8).link branching, false)
    else
      let (t, branching) := exactCopies copy low t
      if low = high then (t, branching)
      else (optionalCopies copy (high - low) (t.state 0) branching, false)
  | none =>
    if low = 0 then
      if moves then
        let (t, branching) := copy (t.state 0)
        ((t.charge 4).link branching, true)
      else
        let (t, branching) := copy t
        (((t.plainStates 3).charge 16).link branching, false)
    else
      let (t, before) := copies copy (low - 1) t false
      let (t, branching) := copy t
      ((((t.state 0).charge 4).link before).link branching, true)

/-- one branch of several: the second one brings the state that branches and the one where the branches meet -/
def Tally.branch (t : Tally) (position : Nat) (branching : Bool) : Tally :=
  ((if position = 1 then t.plainStates 2 else t).charge 4).link branching

/-- what was built at a place: by itself, or as the last of several branches -/
def placed (position : Nat) (built : Tally × Bool) : Tally × Bool :=
  if position = 0 then built else (built.1.branch position built.2, false)

namespace Regex

/-- the octets of the characters, if the expression is a literal -/
def word? : Regex → Option (List Nat)
  | .literal cs => some (cs.flatMap fun c => octets c.toNat)
  | _ => none

/-- the states for a normal form, and whether the last of them branches. `position` counts the branches before, within
alternatives. -/
def build (backward : Bool) : Regex → Nat → Tally → Tally × Bool
  | .empty, position, t => placed position (t.state 0, false)
  | .literal cs, position, t => placed position (t.plainStates (octetLength cs), false)
  | .set octets s, position, t => placed position (t.set backward octets s, false)
  | .look _, position, t => placed position (t.state 0, false)
  | .cat a b, position, t =>
    placed position <|
      if backward then
        let (t, branching) := b.build backward 0 t
        a.build backward 0 (t.link branching)
      else
        let (t, branching) := a.build backward 0 t
        b.build backward 0 (t.link branching)
  | .alt a b, position, t =>
    match position, (a :: b.branches).mapM word? with
    | 0, some words =>
      let words := if backward then words.map List.reverse else words
      (Tally.words (words.foldl (fun n w => max n w.length) 0 + 1) words (t.state 0), false)
    | _, _ =>
      let (t, branching) := a.build backward 0 t
      b.build backward (position + 1) (t.branch position branching)
  | .repeated a low high _, position, t =>
    placed position (repeatedCopies (a.build backward 0) (a.leastLength.any (0 < ·)) low high t)
  | .group number a, position, t =>
    placed position <|
      if backward || number.isNone then a.build backward 0 t
      else
        let (t, branching) := a.build backward 0 (t.state 0)
        ((t.state 0).link branching, false)

/-- each match begins at the front of the text -/
def isAnchoredFront : Regex → Bool
  | .look l => l == .textStart
  | .cat a b => a.isAnchoredFront || (a.greatestLength == some 0 && b.isAnchoredFront)
  | .alt a b => a.isAnchoredFront && b.isAnchoredFront
  | .repeated a low _ _ => 0 < low && a.isAnchoredFront
  | .group _ a => a.isAnchoredFront
  | _ => false

/-- each match ends at the back of the text -/
def isAnchoredBack : Regex → Bool
  | .look l => l == .textEnd
  | .cat a b => b.isAnchoredBack || (b.greatestLength == some 0 && a.isAnchoredBack)
  | .alt a b => a.isAnchoredBack && b.isAnchoredBack
  | .repeated a low _ _ => 0 < low && a.isAnchoredBack
  | .group _ a => a.isAnchoredBack
  | _ => false

/-- the states before those of an expression: one if it is anchored, and else a loop over any octet -/
def entrance (anchored : Bool) : Tally :=
  if anchored then Tally.state {} 0 else ((Tally.plainStates {} 2).state 8).charge 8

/-- the octets that the automaton of a normal form takes from the front; the whole match is a group too -/
def forwardSize (r : Regex) : Nat :=
  let (t, branching) := r.build false 0 ((entrance r.isAnchoredFront).state 0)
  ((t.plainStates 2).link branching).octets

/-- the octets that the automaton of a normal form takes from the back -/
def backwardSize (r : Regex) : Nat :=
  let (t, branching) := r.build true 0 (entrance r.isAnchoredBack)
  ((t.state 0).link branching).octets

/-- at least as many octets as either automaton takes -/
def weight : Regex → Nat
  | .empty => 48
  | .literal cs => 192 * octetLength cs + 48
  | .set octets s => if octets || s.isAscii then 64 * s.ranges.length + 160 else 1200 * (s.ranges.length + 4)
  | .look _ => 48
  | .cat a b => a.weight + b.weight + 16
  | .alt a b => a.weight + b.weight + 160
  | .repeated a low high _ => (a.weight + 64) * max 1 (max low (high.getD 1)) + 256
  | .group _ a => a.weight + 96

/-- neither automaton of the expression takes more than `sizeLimit` -/
def fits (r : Regex) : Bool :=
  r.weight + 512 ≤ sizeLimit || (r.normal.forwardSize ≤ sizeLimit && r.normal.backwardSize ≤ sizeLimit)

end Regex
end ScopedStore.Pattern
