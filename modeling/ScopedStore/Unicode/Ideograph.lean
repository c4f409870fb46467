/-
Ideographs, their radicals, and the characters that describe how an ideograph is put together.
-/
import ScopedStore.Unicode.Ranges

namespace ScopedStore.Unicode

/-- ideographs -/
def ideographs : List (Nat × Nat) :=
  [
    (0x3006, 0x3007), (0x3021, 0x3029), (0x3038, 0x303A), (0x3400, 0x4DBF), (0x4E00, 0x9FFF),
    (0xF900, 0xFA6D), (0xFA70, 0xFAD9), (0x16FE4, 0x16FE4), (0x17000, 0x187F7), (0x18800, 0x18CD5),
    (0x18CFF, 0x18D08), (0x1B170, 0x1B2FB), (0x20000, 0x2A6DF), (0x2A700, 0x2B739), (0x2B740, 0x2B81D),
    (0x2B820, 0x2CEA1), (0x2CEB0, 0x2EBE0), (0x2EBF0, 0x2EE5D), (0x2F800, 0x2FA1D), (0x30000, 0x3134A),
    (0x31350, 0x323AF)]

/-- unified ideographs -/
def unifiedIdeographs : List (Nat × Nat) :=
  [
    (0x3400, 0x4DBF), (0x4E00, 0x9FFF), (0xFA0E, 0xFA0F), (0xFA11, 0xFA11), (0xFA13, 0xFA14),
    (0xFA1F, 0xFA1F), (0xFA21, 0xFA21), (0xFA23, 0xFA24), (0xFA27, 0xFA29), (0x20000, 0x2A6DF),
    (0x2A700, 0x2B739), (0x2B740, 0x2B81D), (0x2B820, 0x2CEA1), (0x2CEB0, 0x2EBE0), (0x2EBF0, 0x2EE5D),
    (0x30000, 0x3134A), (0x31350, 0x323AF)]

/-- radicals -/
def radicals : List (Nat × Nat) :=
  [
    (0x2E80, 0x2E99), (0x2E9B, 0x2EF3), (0x2F00, 0x2FD5)]

/-- operators on two ideographs -/
def ideographicBinaryOperators : List (Nat × Nat) :=
  [
    (0x2FF0, 0x2FF1), (0x2FF4, 0x2FFD), (0x31EF, 0x31EF)]

/-- operators on three ideographs -/
def ideographicTernaryOperators : List (Nat × Nat) :=
  [
    (0x2FF2, 0x2FF3)]

/-- operators on one ideograph -/
def ideographicUnaryOperators : List (Nat × Nat) :=
  [
    (0x2FFE, 0x2FFF)]

end ScopedStore.Unicode
