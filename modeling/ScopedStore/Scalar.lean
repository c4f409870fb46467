/-
Typed values of a raw text: booleans, integers and doubles.

Booleans are written by the first configured literal, integers in base ten, doubles in their canonical form. Reading
never narrows: `1.5` is no integer. What happens to a text that does not read is up to the failure strategy.
-/
import ScopedStore.Coercion
import ScopedStore.Number.Basic

namespace ScopedStore

/-- the types that a raw text can be read as -/
inductive ScalarType where
  | bool
  | int
  | double
  deriving DecidableEq

/-- a typed value -/
inductive Scalar where
  | bool (value : Bool)
  | int (value : Int64)
  | double (value : Double)
  deriving DecidableEq

def Scalar.type : Scalar → ScalarType
  | .bool _ => .bool
  | .int _ => .int
  | .double _ => .double

/-- the texts read as booleans; the first of each list is the one that is written -/
structure BoolLiterals where
  trueLiterals : List String := ["true"]
  falseLiterals : List String := ["false"]
  deriving DecidableEq

/-- the values that stand in for texts that do not read -/
structure ScalarDefaults where
  bool : Bool := false
  int : Int64 := 0
  double : Double := Double.zero false
  deriving DecidableEq

/-- what a typed read does with a text that does not read -/
inductive FailureStrategy where
  | throw
  | substituteDefault
  | returnMarker
  deriving DecidableEq

/-- the outcome of a typed read that is not an error -/
inductive Decoded where
  | value (v : Scalar)
  | fallback (v : Scalar)
  | failed (cause : CoercionError)
  deriving DecidableEq

/-- how typed values are read and written -/
structure ScalarCodec where
  strategy : FailureStrategy := .throw
  defaults : ScalarDefaults := {}
  bools : BoolLiterals := {}

namespace ScalarCodec

/-- the value of a type that a text writes -/
def read (codec : ScalarCodec) (type : ScalarType) (raw : String) : Except CoercionError Scalar :=
  match type with
  | .bool =>
    if raw ∈ codec.bools.trueLiterals then .ok (.bool true)
    else if raw ∈ codec.bools.falseLiterals then .ok (.bool false)
    else .error (.notBool raw)
  | .int =>
    match Number.readInt64 raw with
    | some i => .ok (.int i)
    | none => .error (.notInt raw)
  | .double =>
    match Double.read raw with
    | some d => .ok (.double d)
    | none => .error (.notDouble raw)

/-- the substitute of a type -/
def fallback (codec : ScalarCodec) : ScalarType → Scalar
  | .bool => .bool codec.defaults.bool
  | .int => .int codec.defaults.int
  | .double => .double codec.defaults.double

/-- reads a text under the failure strategy -/
def decode (codec : ScalarCodec) (type : ScalarType) (raw : String) : Except CoercionError Decoded :=
  match codec.read type raw with
  | .ok v => .ok (.value v)
  | .error cause =>
    match codec.strategy with
    | .throw => .error cause
    | .substituteDefault => .ok (.fallback (codec.fallback type))
    | .returnMarker => .ok (.failed cause)

/-- the text of a value -/
def encode (codec : ScalarCodec) : Scalar → String
  | .bool true => codec.bools.trueLiterals.headD "true"
  | .bool false => codec.bools.falseLiterals.headD "false"
  | .int i => Number.writeInt64 i
  | .double d => d.write

end ScalarCodec

/-- the text of the number in `raw` with `delta` added to it; integer arithmetic is used only between integers -/
def addToText (raw : String) (delta : Number) : Except CoercionError String :=
  match Number.read raw with
  | some current =>
    match current.add? delta with
    | some sum => .ok sum.render
    | none => .error (.overflow raw delta.render)
  | none =>
    if Number.isIntegerLiteral raw then .error (.overflow raw delta.render) else .error (.notNumeric raw)

end ScopedStore
