/-
The kinds of commands that scripts are made of.
-/

namespace ScopedStore

/-- what a command does -/
inductive CommandKind where
  | set
  | inc
  | dec
  | clear
  | listAppend
  | setAppend
  deriving DecidableEq

namespace CommandKind

/-- every kind, in the order in which they are listed -/
def all : List CommandKind := [.set, .inc, .dec, .clear, .listAppend, .setAppend]

/-- the spelling in scripts -/
def spelling : CommandKind → String
  | .set => "set"
  | .inc => "inc"
  | .dec => "dec"
  | .clear => "clear"
  | .listAppend => "list append"
  | .setAppend => "set append"

end CommandKind
end ScopedStore
