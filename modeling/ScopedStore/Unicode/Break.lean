/-
Segmentation of text: what a character does to the ends of graphemes, words and sentences. Each of the three tables
lists the classes by name, in lower case and without separators. Characters of no class in particular have no name
here.
-/
import ScopedStore.Unicode.Property
import ScopedStore.Unicode.Script
import ScopedStore.Unicode.Segmentation

namespace ScopedStore.Unicode.Break

open Category

def carriageReturn : TableSet := .rows [(0x0D, 0x0D)]
def lineFeed : TableSet := .rows [(0x0A, 0x0A)]
def zeroWidthJoiner : TableSet := .rows [(0x200D, 0x200D)]
def zeroWidthNonJoiner : TableSet := .rows [(0x200C, 0x200C)]
def lineEnds : TableSet := carriageReturn.union lineFeed

/-- the letters of a script -/
def script (name : String) : TableSet :=
  .rows ((scripts.filter (·.names.contains name)).flatMap (·.rows))

/-! ## Graphemes -/

def graphemeExtend : TableSet := (Property.graphemeExtend.union (.rows emojiModifiers)).diff zeroWidthJoiner

def graphemeControl : TableSet :=
  (TableSet.unions
    [lineSeparator, paragraphSeparator, control, format, (TableSet.rows otherIgnorable).diff assigned]).diff
    (.unions [lineEnds, zeroWidthJoiner, zeroWidthNonJoiner, .rows prependedConcatenationMarks, graphemeExtend])

def spacing : TableSet :=
  (spacingMark.union (.rows trailingVowels)).diff (graphemeExtend.union (.rows loneSpacingMarks))

/-! ## Words -/

def wordExtend : TableSet :=
  (TableSet.unions [Property.graphemeExtend, spacingMark, .rows emojiModifiers]).diff zeroWidthJoiner

def wordFormat : TableSet :=
  format.diff
    (.unions [.rows [(0x200B, 0x200D)], wordExtend, .rows prependedConcatenationMarks])

def wordKatakana : TableSet := (script "kana").union (.rows kanaLike)

def hebrewLetter : TableSet := (script "hebr").inter otherLetter

def wordLetter : TableSet :=
  (Property.alphabetic.union (.rows wordLike)).diff
    (.unions [.rows ideographs, wordKatakana, .rows unspacedLetters, script "hira", wordExtend, hebrewLetter])

def wordNumeric : TableSet := .unions [decimalNumber, .rows wordNumerals, .rows numberSigns]

/-! ## Sentences -/

def sentenceExtend : TableSet := .unions [Property.graphemeExtend, spacingMark, zeroWidthJoiner]

def sentenceFormat : TableSet :=
  format.diff
    (.unions [zeroWidthJoiner, zeroWidthNonJoiner, sentenceExtend, .rows prependedConcatenationMarks])

def sentenceLower : TableSet :=
  Property.lowercase.diff (Property.graphemeExtend.union (.rows caselessLowercase))

def sentenceUpper : TableSet :=
  (Property.uppercase.union titlecaseLetter).diff (.rows caselessUppercase)

def sentenceLetter : TableSet :=
  (TableSet.unions [Property.alphabetic, .rows [(0x05F3, 0x05F3), (0x070F, 0x070F)]]).diff
    (.unions [sentenceLower, sentenceUpper, sentenceExtend])

def sentenceNumeric : TableSet := .unions [decimalNumber, .rows sentenceNumerals, .rows numberSigns]

def sentenceStop : TableSet := (TableSet.rows sentenceTerminals).diff (.rows ambiguousStops)

def sentenceClose : TableSet :=
  (TableSet.unions [brackets, quotes, .rows otherQuotes]).diff (sentenceStop.union (.rows ambiguousStops))

def sentenceSpace : TableSet :=
  (TableSet.rows blankRanges).diff ((TableSet.rows sentenceLineBreaks).union lineEnds)

end Break

/-- what a character does to the ends of graphemes -/
def graphemeBreaks : List (List String × TableSet) :=
  [
    (["cn", "control"], Break.graphemeControl),
    (["cr"], Break.carriageReturn),
    (["ex", "extend"], Break.graphemeExtend),
    (["l"], .rows leadingJamo),
    (["lf"], Break.lineFeed),
    (["lv"], .strides openSyllables),
    (["lvt"], (TableSet.rows syllables).diff (.strides openSyllables)),
    (["pp", "prepend"], .union (.rows prependedConcatenationMarks) (.rows prependedConsonants)),
    (["ri", "regionalindicator"], .rows regionalIndicators),
    (["sm", "spacingmark"], Break.spacing),
    (["t"], .rows trailingJamo),
    (["v"], .rows vowelJamo),
    (["zwj"], Break.zeroWidthJoiner)]

/-- what a character does to the ends of words -/
def wordBreaks : List (List String × TableSet) :=
  [
    (["le", "aletter"], Break.wordLetter),
    (["cr"], Break.carriageReturn),
    (["dq", "doublequote"], .rows [(0x22, 0x22)]),
    (["extend"], Break.wordExtend),
    (["ex", "extendnumlet"], .union Category.connector (.rows [(0x202F, 0x202F)])),
    (["fo", "format"], Break.wordFormat),
    (["hl", "hebrewletter"], Break.hebrewLetter),
    (["ka", "katakana"], Break.wordKatakana),
    (["lf"], Break.lineFeed),
    (["ml", "midletter"], .rows midLetters),
    (["mn", "midnum"], .rows midNumerals),
    (["mb", "midnumlet"], .rows midLettersOrNumerals),
    (["nl", "newline"], .rows wordLineBreaks),
    (["nu", "numeric"], Break.wordNumeric),
    (["ri", "regionalindicator"], .rows regionalIndicators),
    (["sq", "singlequote"], .rows [(0x27, 0x27)]),
    (["wsegspace"], .rows wordBlanks),
    (["zwj"], Break.zeroWidthJoiner)]

/-- what a character does to the ends of sentences -/
def sentenceBreaks : List (List String × TableSet) :=
  [
    (["at", "aterm"], .rows ambiguousStops),
    (["cl", "close"], Break.sentenceClose),
    (["cr"], Break.carriageReturn),
    (["ex", "extend"], Break.sentenceExtend),
    (["fo", "format"], Break.sentenceFormat),
    (["le", "oletter"], Break.sentenceLetter),
    (["lf"], Break.lineFeed),
    (["lo", "lower"], Break.sentenceLower),
    (["nu", "numeric"], Break.sentenceNumeric),
    (["sc", "scontinue"], .rows sentenceContinuers),
    (["se", "sep"], .rows sentenceLineBreaks),
    (["sp"], Break.sentenceSpace),
    (["st", "sterm"], Break.sentenceStop),
    (["up", "upper"], Break.sentenceUpper)]

end ScopedStore.Unicode
