/-
Patterns for whole names. A pattern text is put between `^(?:` and `)$` and compiled as it then stands; a name is
accepted when the compiled expression occurs in it.
-/
import ScopedStore.Pattern.Automaton
import ScopedStore.Pattern.Read
import ScopedStore.Pattern.Search

namespace ScopedStore

/-- a compiled name pattern, with its source text -/
structure NamePattern where
  source : String
  regex : Pattern.Regex
  deriving DecidableEq

namespace NamePattern

/-- the pattern text, set between anchors -/
def anchored (source : String) : List Char := "^(?:".toList ++ source.toList ++ ")$".toList

/-- compiles a pattern text; there is no result when the anchored text is no pattern or takes too large an automaton -/
def compile (source : String) : Option NamePattern :=
  match Pattern.Regex.read (anchored source) with
  | some regex => if regex.fits then some ⟨source, regex⟩ else none
  | none => none

/-- the name is accepted -/
def accepts (p : NamePattern) (name : String) : Bool := p.regex.occursIn name.toList

end NamePattern
end ScopedStore
