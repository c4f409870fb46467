/-
The written form of patterns.

`Regex.read` turns a pattern into a regular expression, or finds that the text is no pattern. The notation has
literals, escapes, classes in brackets with set operations, groups with flags and names, alternatives, and counted or
uncounted repetition. There is no look-around and no back-reference. Groups, classes and repetitions may nest up to
`nestingLimit`.
-/
import ScopedStore.Pattern.Bracket
import ScopedStore.Unicode.Alphabetic

namespace ScopedStore.Pattern

/-- an expression with the depth of its written form -/
structure Nested where
  regex : Regex
  depth : Nat

/-- an element of a sequence; a change of flags is one too, but it cannot be repeated -/
inductive Element where
  | expr (e : Nested)
  | flags

/-- what was read so far within a group: the branches before and the elements of the present one, the last first -/
structure Branches where
  earlier : List Nested := []
  elements : List Element := []

/-- the groups that were opened so far -/
structure Groups where
  count : Nat := 0
  names : List (List Char) := []

/-- how a group opens -/
inductive Opening where
  /-- flags for the rest of the enclosing group -/
  | flags (flags : Flags)
  | plain (flags : Flags)
  | numbered (name : Option (List Char))

/-! ## Sequences and alternatives -/

/-- one expression before another; neighbouring literals are one -/
def Regex.before (a b : Regex) : Regex :=
  match a, b with
  | .literal cs, .literal ds => .literal (cs ++ ds)
  | .literal cs, .cat (.literal ds) rest => .cat (.literal (cs ++ ds)) rest
  | a, .empty => a
  | a, b => .cat a b

/-- elements, the last first, as one expression; two of them or more are a level of their own -/
def Element.sequence (elements : List Element) : Nested :=
  let exprs := elements.filterMap fun
    | .expr e => some e
    | .flags => none
  let depth := exprs.foldl (fun d e => max d e.depth) 0
  ⟨exprs.foldl (fun rest e => e.regex.before rest) .empty, if elements.length < 2 then depth else depth + 1⟩

/-- all that was read of a group as one expression; two branches or more are a level of their own -/
def Branches.close (b : Branches) : Nested :=
  b.earlier.foldl (fun rest e => ⟨.alt e.regex rest.regex, max rest.depth (e.depth + 1)⟩)
    (let last := Element.sequence b.elements
    if b.earlier.isEmpty then last else ⟨last.regex, last.depth + 1⟩)

/-- the next branch begins -/
def Branches.next (b : Branches) : Branches := ⟨Element.sequence b.elements :: b.earlier, []⟩

/-- one more expression -/
def Branches.add (b : Branches) (r : Regex) (depth : Nat) : Branches :=
  { b with elements := .expr ⟨r, depth⟩ :: b.elements }

/-- the last element is repeated; there has to be one, and a change of flags is none -/
def Branches.repeatLast (b : Branches) (low : Nat) (high : Option Nat) (greedy : Bool) : Option Branches :=
  match b.elements with
  | .expr e :: others => some { b with elements := .expr ⟨.repeated e.regex low high greedy, e.depth + 1⟩ :: others }
  | _ => none

namespace Read

/-! ## Openings of groups -/

/-- a letter of a flag group -/
def setFlag (flags : Flags) (value : Bool) : Char → Option Flags
  | 'i' => some { flags with ignoreCase := value }
  | 'm' => some { flags with multiline := value }
  | 's' => some { flags with dotAll := value }
  | 'U' => some { flags with swapGreed := value }
  | 'R' => some { flags with crlf := value }
  | 'u' => some { flags with unicode := value }
  | 'x' => some { flags with extended := value }
  | _ => none

/-- the letters of a flag group, up to the character that ends it; each may stand once, and so may a hyphen, though
not at the end -/
def flagLetters (flags : Flags) (value : Bool) (seen : List Char) : List Char → Option (Flags × List Char × List Char)
  | [] => none
  | c :: cs =>
    if c = ':' ∨ c = ')' then
      if seen.head? = some '-' then none else some (flags, seen, c :: cs)
    else if c ∈ seen then none
    else if c = '-' then flagLetters flags false ('-' :: seen) cs
    else
      match setFlag flags value c with
      | none => none
      | some flags => flagLetters flags value (c :: seen) cs

/-- the name of a group, up to its closing bracket -/
def groupName (cs : List Char) : Option (List Char × List Char) :=
  let name := cs.takeWhile (· ≠ '>')
  let starts := match name with
    | [] => false
    | c :: _ => c = '_' || Unicode.isAlphabetic c
  let proper := (name.drop 1).all fun c => c = '_' || c = '.' || c = '[' || c = ']' || Unicode.isAlphanumeric c
  match cs.dropWhile (· ≠ '>') with
  | _ :: rest => if starts && proper then some (name, rest) else none
  | [] => none

/-- what follows an opening parenthesis -/
def opening (flags : Flags) (cs : List Char) : Option (Opening × List Char) :=
  match cs with
  | '?' :: 'P' :: '<' :: cs => (groupName cs).map fun (name, rest) => (.numbered (some name), rest)
  | '?' :: '<' :: cs => (groupName cs).map fun (name, rest) => (.numbered (some name), rest)
  | '?' :: cs =>
    match flagLetters flags true [] cs with
    | some (changed, seen, ')' :: rest) => if seen.isEmpty then none else some (.flags changed, rest)
    | some (changed, _, _ :: rest) => some (.plain changed, rest)
    | _ => none
  | cs => some (.numbered none, cs)

/-! ## Primitives and counts -/

/-- a character as an expression; with case set aside, it may be one of several -/
def charRegex (flags : Flags) (c : Char) : Regex :=
  let s := flags.closed (.single c)
  if s = .single c then .literal [c] else .set (!flags.unicode) s

/-- any character, or any but a line break -/
def dot (flags : Flags) : Option CharSet :=
  if !flags.unicode then none
  else if flags.dotAll then some (.compl .none)
  else if flags.crlf then some (.compl (.union (.single '\n') (.single '\r')))
  else some (.compl (.single '\n'))

/-- an expression of a single character or escape -/
def primitive (flags : Flags) (cs : List Char) : Option (Regex × List Char) :=
  match cs with
  | [] => none
  | '\\' :: cs =>
    (escape flags cs).map fun
      | (.char c, rest) => (charRegex flags c, rest)
      | (.set s, rest) => (.set (!flags.unicode) s, rest)
      | (.look l, rest) => (.look l, rest)
  | '.' :: cs => (dot flags).map fun s => (.set false s, cs)
  | '^' :: cs => some (.look (if flags.multiline then .lineStart flags.crlf else .textStart), cs)
  | '$' :: cs => some (.look (if flags.multiline then .lineEnd flags.crlf else .textEnd), cs)
  | c :: cs => some (charRegex flags c, cs)

/-- a count in braces, after the opening one: the least and the greatest number of times -/
def counted (extended : Bool) (cs : List Char) : Option (Nat × Option Nat × List Char) := do
  let (low, rest) ← decimal extended (skipBlanks extended cs)
  match rest with
  | '\x7d' :: rest => return (low, some low, rest)
  | ',' :: rest =>
    match skipBlanks extended rest with
    | '\x7d' :: rest => return (low, none, rest)
    | rest =>
      match ← decimal extended rest with
      | (high, '\x7d' :: rest) => if low ≤ high then return (low, some high, rest) else none
      | _ => none
  | _ => none

/-- a question mark after a repetition turns its greed round -/
def greed (flags : Flags) (cs : List Char) : Bool × List Char :=
  match cs with
  | '?' :: rest => (flags.swapGreed, rest)
  | cs => (!flags.swapGreed, cs)

/-! ## Groups -/

/-- the inside of a group, up to its closing parenthesis or the end of the text; `room` more groups may open in it -/
def body : Nat → Nat → Flags → Groups → Branches → List Char → Option (Nested × Groups × List Char)
  | 0, _, _, _, _, _ => none
  | fuel + 1, room, flags, groups, branches, cs =>
    let repeated (low : Nat) (high : Option Nat) (rest : List Char) : Option (Nested × Groups × List Char) :=
      let (greedy, rest) := greed flags rest
      match branches.repeatLast low high greedy with
      | none => none
      | some branches => body fuel room flags groups branches rest
    match skipBlanks flags.extended cs with
    | [] => some (branches.close, groups, [])
    | ')' :: rest => some (branches.close, groups, ')' :: rest)
    | '|' :: rest => body fuel room flags groups branches.next rest
    | '(' :: rest =>
      match opening flags (skipBlanks flags.extended rest) with
      | none => none
      | some (.flags changed, rest) =>
        body fuel room changed groups { branches with elements := .flags :: branches.elements } rest
      | some (.plain inner, rest) =>
        if room = 0 then none
        else
          match body fuel (room - 1) inner groups {} rest with
          | some (e, groups, ')' :: rest) =>
            body fuel room flags groups (branches.add (.group none e.regex) (e.depth + 1)) rest
          | _ => none
      | some (.numbered name, rest) =>
        if room = 0 ∨ name.any (· ∈ groups.names) then none
        else
          let number := groups.count + 1
          match body fuel (room - 1) flags ⟨number, name.toList ++ groups.names⟩ {} rest with
          | some (e, groups, ')' :: rest) =>
            body fuel room flags groups (branches.add (.group (some number) e.regex) (e.depth + 1)) rest
          | _ => none
    | '[' :: rest =>
      match bracketed flags rest with
      | none => none
      | some (e, rest) => body fuel room flags groups (branches.add (.set (!flags.unicode) e.set) e.depth) rest
    | '?' :: rest => repeated 0 (some 1) rest
    | '*' :: rest => repeated 0 none rest
    | '+' :: rest => repeated 1 none rest
    | '\x7b' :: rest =>
      match counted flags.extended rest with
      | none => none
      | some (low, high, rest) => repeated low high (skipBlanks flags.extended rest)
    | cs =>
      match primitive flags cs with
      | none => none
      | some (regex, rest) => body fuel room flags groups (branches.add regex 0) rest

end Read

/-- the regular expression that a text writes, if it writes one -/
def Regex.read (pattern : List Char) : Option Regex :=
  match Read.body (pattern.length + 1) nestingLimit {} {} {} pattern with
  | some (e, _, []) => if e.depth ≤ nestingLimit then some e.regex else none
  | _ => none

end ScopedStore.Pattern
