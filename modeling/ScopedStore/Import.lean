/-
Texts for bulk import: one `key=value` on a line.

Blank lines and lines that start with `#` are passed over. The key ends at the first equals sign; what follows is the
value as it stands, except that blanks at the end of the line do not count.
-/
import ScopedStore.Text

namespace ScopedStore

/-- a line without an equals sign, counted from one -/
structure ImportError where
  line : Nat
  deriving DecidableEq

/-- the wording of the error -/
def ImportError.message (e : ImportError) : String := s!"line {e.line}: expected key=value"

namespace Import

/-- what a line says, the blanks around it removed: nothing, or a key and a value -/
def readLine (number : Nat) (line : List Char) : Except ImportError (Option (String × String)) :=
  match Text.trim line with
  | [] => .ok none
  | '#' :: _ => .ok none
  | line =>
    match Text.cutAt '=' line with
    | some (key, value) => .ok (some (String.ofList (Text.trim key), String.ofList value))
    | none => .error ⟨number⟩

/-- the entries of lines, the first of which has that number -/
def readLines (number : Nat) : List (List Char) → Except ImportError (List (String × String))
  | [] => .ok []
  | line :: lines => do
    let entry ← readLine number line
    return entry.toList ++ (← readLines (number + 1) lines)

/-- the entries of a text -/
def read (content : String) : Except ImportError (List (String × String)) := readLines 1 (Text.lines content.toList)

end Import
end ScopedStore
