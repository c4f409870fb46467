/-
Properties that a character has or has not. `properties` lists them by name, in lower case and without separators, the
shortest name first. Many are read off the general category, with a table for what the category does not tell.
-/
import ScopedStore.Unicode.Category
import ScopedStore.Unicode.Alphabetic
import ScopedStore.Unicode.Casing
import ScopedStore.Unicode.Emoji
import ScopedStore.Unicode.Identifier
import ScopedStore.Unicode.Ideograph

namespace ScopedStore.Unicode.Property

open Category

/-! ## Letters and their case -/

def alphabetic : TableSet := .unions [letter, letterNumber, .rows otherAlphabetic]
def lowercase : TableSet := .union lowercaseLetter (.rows otherLowercase)
def uppercase : TableSet := .union uppercaseLetter (.rows otherUppercase)
def cased : TableSet := .unions [lowercase, uppercase, titlecaseLetter]

def caseIgnorable : TableSet :=
  .unions [nonspacingMark, enclosingMark, format, modifierLetter, modifierSymbol, .rows caseIgnorablePunctuation]

def changesWhenLowercased : TableSet := (uppercase.union titlecaseLetter).diff (.rows lowercaseless)

def changesWhenUppercased : TableSet :=
  (lowercase.diff (.rows uppercaseless)).union (.rows uppercaseable)

def changesWhenTitlecased : TableSet :=
  (changesWhenUppercased.diff (.rows ownTitlecase)).union (.rows titlecaseable)

def changesWhenCasefolded : TableSet :=
  (changesWhenLowercased.diff (.rows unfoldable)).union (.rows foldable)

def changesWhenCasemapped : TableSet :=
  .unions [changesWhenLowercased, changesWhenUppercased, changesWhenTitlecased]

/-- characters of words: alphabetic characters, marks, decimal digits, connectors and the two joiners -/
def word : TableSet := .unions [alphabetic, mark, decimalNumber, connector, .rows joiners]

/-! ## Identifiers -/

def patternNotation : TableSet := .union (.rows patternSigns) (.rows patternBlanks)

def idStart : TableSet :=
  (TableSet.unions [letter, letterNumber, .rows otherIdStart]).diff patternNotation

def idContinue : TableSet :=
  (TableSet.unions [idStart, nonspacingMark, spacingMark, decimalNumber, connector, .rows otherIdContinue]).diff
    patternNotation

def stableIdStart : TableSet := (idStart.diff (.rows unstableIdentifiers)).diff (.rows unstableIdStarts)

def stableIdContinue : TableSet := idContinue.diff (.rows unstableIdentifiers)

/-! ## Graphemes and display -/

def graphemeExtend : TableSet := .unions [nonspacingMark, enclosingMark, .rows otherGraphemeExtenders]

def graphemeBase : TableSet :=
  assigned.diff (.unions [control, format, privateUse, lineSeparator, paragraphSeparator, graphemeExtend])

def defaultIgnorable : TableSet :=
  (TableSet.unions [.rows otherIgnorable, format, .rows variationSelectors]).diff
    (.unions [.rows blankRanges, .rows shownFormatChars, .rows prependedConcatenationMarks])

def asciiHexDigit : TableSet := .rows [(0x30, 0x39), (0x41, 0x46), (0x61, 0x66)]

def hexDigit : TableSet := asciiHexDigit.union (.rows [(0xFF10, 0xFF19), (0xFF21, 0xFF26), (0xFF41, 0xFF46)])

end Property

/-- the properties, each with its names -/
def properties : List (List String × TableSet) :=
  [
    (["ahex", "asciihexdigit"], Property.asciiHexDigit),
    (["alpha", "alphabetic"], Property.alphabetic),
    (["bidic", "bidicontrol"], .rows bidiControls),
    (["bidim", "bidimirrored"], .rows bidiMirrored),
    (["ci", "caseignorable"], Property.caseIgnorable),
    (["cased"], Property.cased),
    (["cwcf", "changeswhencasefolded"], Property.changesWhenCasefolded),
    (["cwcm", "changeswhencasemapped"], Property.changesWhenCasemapped),
    (["cwl", "changeswhenlowercased"], Property.changesWhenLowercased),
    (["cwt", "changeswhentitlecased"], Property.changesWhenTitlecased),
    (["cwu", "changeswhenuppercased"], Property.changesWhenUppercased),
    (["dash"], .rows dashLike),
    (["di", "defaultignorablecodepoint"], Property.defaultIgnorable),
    (["dep", "deprecated"], .rows deprecated),
    (["dia", "diacritic"], .rows diacritics),
    (["emoji"], .rows emojiChars),
    (["ecomp", "emojicomponent"], .rows emojiComponents),
    (["emod", "emojimodifier"], .rows emojiModifiers),
    (["ebase", "emojimodifierbase"], .rows emojiModifierBases),
    (["epres", "emojipresentation"], .rows emojiPresentation),
    (["extpict", "extendedpictographic"], .rows extendedPictographic),
    (["ext", "extender"], .rows extenders),
    (["grbase", "graphemebase"], Property.graphemeBase),
    (["grext", "graphemeextend"], Property.graphemeExtend),
    (["grlink", "graphemelink"], .rows graphemeLinks),
    (["hex", "hexdigit"], Property.hexDigit),
    (["hyphen"], .rows hyphens),
    (["idsb", "idsbinaryoperator"], .rows ideographicBinaryOperators),
    (["idst", "idstrinaryoperator"], .rows ideographicTernaryOperators),
    (["idsu", "idsunaryoperator"], .rows ideographicUnaryOperators),
    (["idcompatmathcontinue"], .union (.rows mathIdStart) (.rows mathIdContinue)),
    (["idcompatmathstart"], .rows mathIdStart),
    (["idc", "idcontinue"], Property.idContinue),
    (["ids", "idstart"], Property.idStart),
    (["ideo", "ideographic"], .rows ideographs),
    (["joinc", "joincontrol"], .rows joiners),
    (["loe", "logicalorderexception"], .rows logicalOrderExceptions),
    (["lower", "lowercase"], Property.lowercase),
    (["math"], .union Category.mathSymbol (.rows otherMath)),
    (["mcm", "modifiercombiningmark"], .rows modifierCombiningMarks),
    (["nchar", "noncharactercodepoint"], .rows noncharacters),
    (["oalpha", "otheralphabetic"], .rows otherAlphabetic),
    (["odi", "otherdefaultignorablecodepoint"], .rows otherIgnorable),
    (["ogrext", "othergraphemeextend"], .rows otherGraphemeExtenders),
    (["oidc", "otheridcontinue"], .rows otherIdContinue),
    (["oids", "otheridstart"], .rows otherIdStart),
    (["olower", "otherlowercase"], .rows otherLowercase),
    (["omath", "othermath"], .rows otherMath),
    (["oupper", "otheruppercase"], .rows otherUppercase),
    (["patsyn", "patternsyntax"], .rows patternSigns),
    (["patws", "patternwhitespace"], .rows patternBlanks),
    (["pcm", "prependedconcatenationmark"], .rows prependedConcatenationMarks),
    (["qmark", "quotationmark"], .rows quotationMarks),
    (["radical"], .rows radicals),
    (["ri", "regionalindicator"], .rows regionalIndicators),
    (["sterm", "sentenceterminal"], .rows sentenceTerminals),
    (["sd", "softdotted"], .rows softDotted),
    (["term", "terminalpunctuation"], .rows terminalPunctuation),
    (["uideo", "unifiedideograph"], .rows unifiedIdeographs),
    (["upper", "uppercase"], Property.uppercase),
    (["vs", "variationselector"], .rows variationSelectors),
    (["wspace", "space", "whitespace"], .rows blankRanges),
    (["xidc", "xidcontinue"], Property.stableIdContinue),
    (["xids", "xidstart"], Property.stableIdStart)]

end ScopedStore.Unicode
