/-
Separators (general category Z), and what no text shows: controls, format characters, characters for private use (parts
of general category C), and further characters without a form of their own.
-/
import ScopedStore.Unicode.Ranges

namespace ScopedStore.Unicode

/-- space separators (Zs) -/
def spaceSeparators : List (Nat × Nat) :=
  [
    (0x0020, 0x0020), (0x00A0, 0x00A0), (0x1680, 0x1680), (0x2000, 0x200A), (0x202F, 0x202F),
    (0x205F, 0x205F), (0x3000, 0x3000)]

/-- line separators (Zl) -/
def lineSeparators : List (Nat × Nat) :=
  [
    (0x2028, 0x2028)]

/-- paragraph separators (Zp) -/
def paragraphSeparators : List (Nat × Nat) :=
  [
    (0x2029, 0x2029)]

/-- control characters (Cc) -/
def controls : List (Nat × Nat) :=
  [
    (0x0000, 0x001F), (0x007F, 0x009F)]

/-- format characters (Cf) -/
def formatChars : List (Nat × Nat) :=
  [
    (0x00AD, 0x00AD), (0x0600, 0x0605), (0x061C, 0x061C), (0x06DD, 0x06DD), (0x070F, 0x070F),
    (0x0890, 0x0891), (0x08E2, 0x08E2), (0x180E, 0x180E), (0x200B, 0x200F), (0x202A, 0x202E),
    (0x2060, 0x2064), (0x2066, 0x206F), (0xFEFF, 0xFEFF), (0xFFF9, 0xFFFB), (0x110BD, 0x110BD),
    (0x110CD, 0x110CD), (0x13430, 0x1343F), (0x1BCA0, 0x1BCA3), (0x1D173, 0x1D17A), (0xE0001, 0xE0001),
    (0xE0020, 0xE007F)]

/-- characters for private use (Co) -/
def privateUseChars : List (Nat × Nat) :=
  [
    (0xE000, 0xF8FF), (0xF0000, 0xFFFFD), (0x100000, 0x10FFFD)]

/-- code points that no character has -/
def surrogates : List (Nat × Nat) :=
  [
    (0xD800, 0xDFFF)]

/-- white space -/
def blankRanges : List (Nat × Nat) :=
  [
    (0x0009, 0x000D), (0x0020, 0x0020), (0x0085, 0x0085), (0x00A0, 0x00A0), (0x1680, 0x1680),
    (0x2000, 0x200A), (0x2028, 0x2029), (0x202F, 0x202F), (0x205F, 0x205F), (0x3000, 0x3000)]

/-- blanks between the tokens of a pattern -/
def patternBlanks : List (Nat × Nat) :=
  [
    (0x0009, 0x000D), (0x0020, 0x0020), (0x0085, 0x0085), (0x200E, 0x200F), (0x2028, 0x2029)]

/-- characters kept for the notation of patterns -/
def patternSigns : List (Nat × Nat) :=
  [
    (0x0021, 0x002F), (0x003A, 0x0040), (0x005B, 0x005E), (0x0060, 0x0060), (0x007B, 0x007E),
    (0x00A1, 0x00A7), (0x00A9, 0x00A9), (0x00AB, 0x00AC), (0x00AE, 0x00AE), (0x00B0, 0x00B1),
    (0x00B6, 0x00B6), (0x00BB, 0x00BB), (0x00BF, 0x00BF), (0x00D7, 0x00D7), (0x00F7, 0x00F7),
    (0x2010, 0x2027), (0x2030, 0x203E), (0x2041, 0x2053), (0x2055, 0x205E), (0x2190, 0x245F),
    (0x2500, 0x2775), (0x2794, 0x2BFF), (0x2E00, 0x2E7F), (0x3001, 0x3003), (0x3008, 0x3020),
    (0x3030, 0x3030), (0xFD3E, 0xFD3F), (0xFE45, 0xFE46)]

/-- characters that steer the direction of text -/
def bidiControls : List (Nat × Nat) :=
  [
    (0x061C, 0x061C), (0x200E, 0x200F), (0x202A, 0x202E), (0x2066, 0x2069)]

/-- joiners -/
def joiners : List (Nat × Nat) :=
  [
    (0x200C, 0x200D)]

/-- characters that are stored before the one they follow in speech -/
def logicalOrderExceptions : List (Nat × Nat) :=
  [
    (0x0E40, 0x0E44), (0x0EC0, 0x0EC4), (0x19B5, 0x19B7), (0x19BA, 0x19BA), (0xAAB5, 0xAAB6),
    (0xAAB9, 0xAAB9), (0xAABB, 0xAABC)]

/-- characters that a display may leave out and that are neither format characters nor variation selectors -/
def otherIgnorable : List (Nat × Nat) :=
  [
    (0x034F, 0x034F), (0x115F, 0x1160), (0x17B4, 0x17B5), (0x2065, 0x2065), (0x3164, 0x3164),
    (0xFFA0, 0xFFA0), (0xFFF0, 0xFFF8), (0xE0000, 0xE0000), (0xE0002, 0xE001F), (0xE0080, 0xE00FF),
    (0xE01F0, 0xE0FFF)]

/-- format characters that a display does not leave out -/
def shownFormatChars : List (Nat × Nat) :=
  [
    (0xFFF9, 0xFFFB), (0x13430, 0x1343F)]

/-- code points that never become characters -/
def noncharacters : List (Nat × Nat) :=
  [
    (0xFDD0, 0xFDEF), (0xFFFE, 0xFFFF), (0x1FFFE, 0x1FFFF), (0x2FFFE, 0x2FFFF), (0x3FFFE, 0x3FFFF),
    (0x4FFFE, 0x4FFFF), (0x5FFFE, 0x5FFFF), (0x6FFFE, 0x6FFFF), (0x7FFFE, 0x7FFFF), (0x8FFFE, 0x8FFFF),
    (0x9FFFE, 0x9FFFF), (0xAFFFE, 0xAFFFF), (0xBFFFE, 0xBFFFF), (0xCFFFE, 0xCFFFF), (0xDFFFE, 0xDFFFF),
    (0xEFFFE, 0xEFFFF), (0xFFFFE, 0xFFFFF), (0x10FFFE, 0x10FFFF)]

/-- characters that new texts avoid -/
def deprecated : List (Nat × Nat) :=
  [
    (0x0149, 0x0149), (0x0673, 0x0673), (0x0F77, 0x0F77), (0x0F79, 0x0F79), (0x17A3, 0x17A4),
    (0x206A, 0x206F), (0x2329, 0x232A), (0xE0001, 0xE0001)]

/-- is white space -/
def isBlank (c : Char) : Bool := inRanges blankRanges c.toNat

end ScopedStore.Unicode
