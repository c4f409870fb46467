/-
Sets of characters put together from tables. A table set is a formula: the tables stand in it as they are, and nothing
is worked out before the set is asked for.
-/
import ScopedStore.Unicode.Ranges

namespace ScopedStore.Unicode

/-- a set of characters in terms of tables -/
inductive TableSet where
  | rows (rows : List (Nat × Nat))
  | strides (rows : List (Nat × Nat × Nat))
  | union (a b : TableSet)
  | inter (a b : TableSet)
  | diff (a b : TableSet)

namespace TableSet

/-- every code point -/
def all : TableSet := .rows [(0, 0x10FFFF)]

/-- the union of several sets -/
def unions : List TableSet → TableSet := List.foldr .union (.rows [])

end TableSet
end ScopedStore.Unicode
