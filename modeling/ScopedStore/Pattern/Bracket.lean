/-
Classes in brackets: characters, ranges, named classes and classes within classes, joined by union, or by the operations
`&&`, `--` and `~~`, which group from the left. A class gives its set and the depth of its written form.
-/
import ScopedStore.Pattern.Escape

namespace ScopedStore.Pattern

/-- how deep groups, classes and repetitions may nest -/
def nestingLimit : Nat := 250

/-- an operation between two parts of a class -/
inductive SetOp where
  | inter | diff | symmDiff

/-- a set with the depth of its written form -/
structure NestedSet where
  set : CharSet
  depth : Nat

/-- the items of a part of a class, so far -/
structure Items where
  set : CharSet := .none
  count : Nat := 0
  /-- the greatest depth of an item -/
  depth : Nat := 0

/-- the part of a class that is being read, after the parts before it and the operation -/
structure ClassPart where
  pending : Option (SetOp × NestedSet) := none
  items : Items := {}

/-- one more item -/
def Items.add (items : Items) (item : NestedSet) : Items :=
  ⟨items.set.union item.set, items.count + 1, max items.depth item.depth⟩

/-- the items as one set; two of them or more are a level of their own -/
def Items.close (items : Items) : NestedSet := ⟨items.set, if items.count < 2 then items.depth else items.depth + 1⟩

/-- the operation on two sets; both are closed under case first, if case does not count -/
def SetOp.combine (flags : Flags) (op : SetOp) (a b : NestedSet) : NestedSet :=
  let left := flags.closed a.set
  let right := flags.closed b.set
  let set := match op with
    | .inter => left.inter right
    | .diff => left.diff right
    | .symmDiff => left.symmDiff right
  ⟨set, max a.depth b.depth + 1⟩

/-- all that was read of a class, as one set -/
def ClassPart.close (part : ClassPart) (flags : Flags) : NestedSet :=
  match part.pending with
  | none => part.items.close
  | some (op, left) => op.combine flags left part.items.close

namespace Read

/-- the name of an ASCII class, from its opening bracket to its closing one. There is no result when the text does not
begin with such a name; then it is a class within a class. -/
def asciiClass? (cs : List Char) : Option (CharSet × Bool × List Char) :=
  match cs with
  | '[' :: ':' :: cs =>
    let (negated, cs) := match cs with
      | '^' :: cs => (true, cs)
      | cs => (false, cs)
    match cs.dropWhile (· ≠ ':') with
    | ':' :: ']' :: rest =>
      (CharSet.asciiClasses.lookup (String.ofList (cs.takeWhile (· ≠ ':')))).map fun s => (s, negated, rest)
    | _ => none
  | _ => none

/-- a member of a class or an end of a range -/
def classMember (flags : Flags) (cs : List Char) : Option (Primitive × List Char) :=
  match cs with
  | [] => none
  | '\\' :: cs => escape flags cs
  | c :: cs => some (.char c, cs)

/-- the character that counts after a hyphen. In extended notation blanks are passed over, and so is a number sign with
the blanks after it, though not the comment that it begins; a hyphen with nothing but such after it is followed by the
very next character. -/
def afterHyphen (extended : Bool) (cs : List Char) : Option Char :=
  if !extended then cs.head?
  else
    match cs.dropWhile Unicode.isBlank with
    | [] => cs.head?
    | '#' :: more => (more.dropWhile Unicode.isBlank).head? <|> cs.head?
    | c :: _ => some c

/-- without Unicode, the characters of a class are ASCII characters -/
def classChar (flags : Flags) (c : Char) : Option Char := if flags.unicode || c.toNat < 128 then some c else none

/-- a member of a class by itself -/
def memberSet (flags : Flags) : Primitive → Option CharSet
  | .char c => (classChar flags c).map .single
  | .set s => some s
  | .look _ => none

/-- a member of a class or a range -/
def classRange (flags : Flags) (cs : List Char) : Option (CharSet × List Char) := do
  let (first, rest) ← classMember flags cs
  match skipBlanks flags.extended rest with
  | [] => none
  | '-' :: after =>
    if afterHyphen flags.extended after = some ']' || afterHyphen flags.extended after = some '-' then
      return (← memberSet flags first, '-' :: after)
    else
      match first, ← classMember flags (skipBlanks flags.extended after) with
      | .char low, (.char high, rest) =>
        if low ≤ high then return (.range (← classChar flags low) (← classChar flags high), rest) else none
      | _, _ => none
  | rest => return (← memberSet flags first, rest)

/-- the hyphens at the front of a class, which stand for themselves -/
def frontHyphens (extended : Bool) : Nat → Items → List Char → Items × List Char
  | 0, items, cs => (items, cs)
  | n + 1, items, cs =>
    match cs with
    | '-' :: rest => frontHyphens extended n (items.add ⟨.single '-', 0⟩) (skipBlanks extended rest)
    | cs => (items, cs)

/-- the front of a class, after its opening bracket: whether it is negated, and the hyphens or else the closing bracket
that stand for themselves -/
def classFront (extended : Bool) (cs : List Char) : Bool × Items × List Char :=
  let (negated, cs) := match skipBlanks extended cs with
    | '^' :: cs => (true, skipBlanks extended cs)
    | cs => (false, cs)
  match frontHyphens extended cs.length {} cs with
  | (⟨_, 0, _⟩, ']' :: rest) => (negated, Items.add {} ⟨.single ']', 0⟩, skipBlanks extended rest)
  | (items, rest) => (negated, items, rest)

/-- the inside of a class, up to its closing bracket; `room` more classes may open within it -/
def classBody (flags : Flags) : Nat → Nat → Bool → ClassPart → List Char → Option (NestedSet × List Char)
  | 0, _, _, _, _ => none
  | fuel + 1, room, negated, part, cs =>
    let next (op : SetOp) (rest : List Char) : Option (NestedSet × List Char) :=
      classBody flags fuel room negated ⟨some (op, part.close flags), {}⟩ rest
    let add (item : NestedSet) (rest : List Char) : Option (NestedSet × List Char) :=
      classBody flags fuel room negated { part with items := part.items.add item } rest
    match skipBlanks flags.extended cs with
    | [] => none
    | ']' :: rest =>
      let whole := part.close flags
      (flags.closedOrCompl negated whole.set).map fun s => (⟨s, whole.depth + 1⟩, rest)
    | '&' :: '&' :: rest => next .inter rest
    | '-' :: '-' :: rest => next .diff rest
    | '~' :: '~' :: rest => next .symmDiff rest
    | '[' :: rest =>
      match asciiClass? ('[' :: rest) with
      | some (s, opposite, rest) =>
        match flags.closedOrCompl opposite s with
        | none => none
        | some s => add ⟨s, 0⟩ rest
      | none =>
        if room = 0 then none
        else
          let (inverse, front, rest) := classFront flags.extended rest
          match classBody flags fuel (room - 1) inverse ⟨none, front⟩ rest with
          | none => none
          | some (inner, rest) => add inner rest
    | cs =>
      match classRange flags cs with
      | none => none
      | some (s, rest) => add ⟨s, 0⟩ rest

/-- a class, after its opening bracket -/
def bracketed (flags : Flags) (cs : List Char) : Option (NestedSet × List Char) :=
  let (negated, front, rest) := classFront flags.extended cs
  classBody flags (cs.length + 1) nestingLimit negated ⟨none, front⟩ rest

end Read
end ScopedStore.Pattern
