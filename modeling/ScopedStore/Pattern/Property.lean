/-
Sets of characters by the name of a property.

`CharSet.named?` reads a lone name: a property, a general category or a script. `CharSet.valued?` reads the name of a
property with one of its values: a category, a script, the use by a script, a version, or a class of segmentation.
-/
import ScopedStore.Pattern.CharSet
import ScopedStore.Unicode.Age
import ScopedStore.Unicode.Break
import ScopedStore.Unicode.SharedScript

namespace ScopedStore.Pattern

/-- a name as it is looked up: case, blanks, hyphens, underscores, characters beyond ASCII and a leading `is` do not
count, save in `isc`, which is a name of its own -/
def plainName (name : List Char) : String :=
  match name.map Char.toLower with
  | 'i' :: 's' :: cs => if cs.filter counts = ['c'] then "isc" else String.ofList (cs.filter counts)
  | cs => String.ofList (cs.filter counts)
where
  counts (c : Char) : Bool := c ≠ '_' && c ≠ '-' && c ≠ ' ' && c.toNat < 128

namespace CharSet

open Unicode (TableSet)

/-- the characters that a formula of tables describes -/
def ofTables : TableSet → CharSet
  | .rows rows => ofTable rows
  | .strides rows => ofTable (rows.flatMap Unicode.strideRanges)
  | .union a b => (ofTables a).union (ofTables b)
  | .inter a b => (ofTables a).inter (ofTables b)
  | .diff a b => (ofTables a).diff (ofTables b)

/-- the entry of that name in a list of named sets -/
def tableSet? (entries : List (List String × TableSet)) (name : String) : Option CharSet :=
  (entries.find? (·.1.contains name)).map fun e => ofTables e.2

/-- the general category of that name -/
def category? (name : String) : Option CharSet := tableSet? Unicode.categories name

/-- the characters that belong to the script of that name -/
def script? (name : String) : Option CharSet :=
  (Unicode.scripts.find? (·.names.contains name)).map fun s => ofTable s.rows

/-- the characters that the script of that name uses -/
def scriptUse? (name : String) : Option CharSet := do
  let script ← Unicode.scripts.find? (·.names.contains name)
  let short ← script.names.head?
  let own := (ofTable script.rows).diff (ofTable Unicode.sharedRanges)
  return own.union (ofTable (Unicode.usedBy short))

/-- the characters that the version of that name knows: its own and those of the versions before -/
def version? (name : String) : Option CharSet := do
  let version ← Unicode.versions.find? (·.names.contains name)
  let earlier := Unicode.versions.takeWhile fun v => !v.names.contains name
  return earlier.foldr (fun v s => (ofTable v.rows).union s) (ofTable version.rows)

/-- the set that a lone name stands for -/
def named? (name : List Char) : Option CharSet :=
  let name := plainName name
  (tableSet? Unicode.properties name <|> category? name) <|> script? name

/-- the set that the value of a property stands for -/
def valued? (property value : List Char) : Option CharSet :=
  let value := plainName value
  match plainName property with
  | "gc" | "generalcategory" => category? value
  | "sc" | "script" => script? value
  | "scx" | "scriptextensions" => scriptUse? value
  | "age" => version? value
  | "gcb" | "graphemeclusterbreak" => tableSet? Unicode.graphemeBreaks value
  | "wb" | "wordbreak" => tableSet? Unicode.wordBreaks value
  | "sb" | "sentencebreak" => tableSet? Unicode.sentenceBreaks value
  | _ => Option.none

/-! ## Shorthands -/

def digit : CharSet := ofTable Unicode.decimalDigits
def space : CharSet := ofTable Unicode.blankRanges
def word : CharSet := ofTables Unicode.Property.word

end CharSet
end ScopedStore.Pattern
