/-
Characters of identifiers, beyond letters, marks and digits.
-/
import ScopedStore.Unicode.Ranges

namespace ScopedStore.Unicode

/-- characters that begin an identifier and are no letters -/
def otherIdStart : List (Nat × Nat) :=
  [
    (0x1885, 0x1886), (0x2118, 0x2118), (0x212E, 0x212E), (0x309B, 0x309C)]

/-- characters that continue an identifier and are no letters, marks, digits or connectors -/
def otherIdContinue : List (Nat × Nat) :=
  [
    (0x00B7, 0x00B7), (0x0387, 0x0387), (0x1369, 0x1371), (0x19DA, 0x19DA), (0x200C, 0x200D),
    (0x30FB, 0x30FB), (0xFF65, 0xFF65)]

/-- letters whose compatible form is no identifier -/
def unstableIdentifiers : List (Nat × Nat) :=
  [
    (0x037A, 0x037A), (0x309B, 0x309C), (0xFC5E, 0xFC63), (0xFDFA, 0xFDFB), (0xFE70, 0xFE70),
    (0xFE72, 0xFE72), (0xFE74, 0xFE74), (0xFE76, 0xFE76), (0xFE78, 0xFE78), (0xFE7A, 0xFE7A),
    (0xFE7C, 0xFE7C), (0xFE7E, 0xFE7E)]

/-- letters whose compatible form begins no identifier -/
def unstableIdStarts : List (Nat × Nat) :=
  [
    (0x0E33, 0x0E33), (0x0EB3, 0x0EB3), (0xFF9E, 0xFF9F)]

/-- mathematical characters that may begin an identifier -/
def mathIdStart : List (Nat × Nat) :=
  [
    (0x2202, 0x2202), (0x2207, 0x2207), (0x221E, 0x221E), (0x1D6C1, 0x1D6C1), (0x1D6DB, 0x1D6DB),
    (0x1D6FB, 0x1D6FB), (0x1D715, 0x1D715), (0x1D735, 0x1D735), (0x1D74F, 0x1D74F), (0x1D76F, 0x1D76F),
    (0x1D789, 0x1D789), (0x1D7A9, 0x1D7A9), (0x1D7C3, 0x1D7C3)]

/-- mathematical characters that may continue an identifier -/
def mathIdContinue : List (Nat × Nat) :=
  [
    (0x00B2, 0x00B3), (0x00B9, 0x00B9), (0x2070, 0x2070), (0x2074, 0x207E), (0x2080, 0x208E)]

end ScopedStore.Unicode
