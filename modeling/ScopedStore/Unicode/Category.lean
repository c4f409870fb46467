/-
General categories. Every character has one of them; the groups (letters, marks, numbers, punctuation, symbols,
separators and the rest) are unions of categories. `categories` lists them by name, in lower case and without
separators. The rest is what no other group holds, and of it `unassigned` is what no table names.
-/
import ScopedStore.Unicode.TableSet
import ScopedStore.Unicode.Letter
import ScopedStore.Unicode.Mark
import ScopedStore.Unicode.Numeral
import ScopedStore.Unicode.Punctuation
import ScopedStore.Unicode.Symbol
import ScopedStore.Unicode.Separator

namespace ScopedStore.Unicode.Category

def letter : TableSet := .rows letterRanges
def uppercaseLetter : TableSet := .strides uppercaseLetters
def lowercaseLetter : TableSet := .strides lowercaseLetters
def titlecaseLetter : TableSet := .rows titlecaseLetters
def modifierLetter : TableSet := .rows modifierLetters
def casedLetter : TableSet := .unions [uppercaseLetter, lowercaseLetter, titlecaseLetter]
def otherLetter : TableSet := letter.diff (casedLetter.union modifierLetter)
def nonspacingMark : TableSet := .rows nonspacingMarks
def spacingMark : TableSet := .rows spacingMarks
def enclosingMark : TableSet := .rows enclosingMarks
def mark : TableSet := .unions [nonspacingMark, spacingMark, enclosingMark]
def decimalNumber : TableSet := .rows decimalDigits
def letterNumber : TableSet := .rows letterNumbers
def otherNumber : TableSet := .rows otherNumbers
def number : TableSet := .unions [decimalNumber, letterNumber, otherNumber]
def connector : TableSet := .rows connectors
def dash : TableSet := .rows dashes
def openPunctuation : TableSet := .rows openBrackets
def closePunctuation : TableSet := .rows closeBrackets
def initialQuote : TableSet := .rows initialQuotes
def finalQuote : TableSet := .rows finalQuotes
def otherPunctuation : TableSet := .rows otherPunctuationChars
def brackets : TableSet := .union openPunctuation closePunctuation
def quotes : TableSet := .union initialQuote finalQuote
def punctuation : TableSet := .unions [connector, dash, brackets, quotes, otherPunctuation]
def mathSymbol : TableSet := .rows mathSymbols
def currencySymbol : TableSet := .rows currencySymbols
def modifierSymbol : TableSet := .rows modifierSymbols
def otherSymbol : TableSet := .rows otherSymbols
def symbol : TableSet := .unions [mathSymbol, currencySymbol, modifierSymbol, otherSymbol]
def spaceSeparator : TableSet := .rows spaceSeparators
def lineSeparator : TableSet := .rows lineSeparators
def paragraphSeparator : TableSet := .rows paragraphSeparators
def separator : TableSet := .unions [spaceSeparator, lineSeparator, paragraphSeparator]
def control : TableSet := .rows controls
def format : TableSet := .rows formatChars
def privateUse : TableSet := .rows privateUseChars

/-- what is in none of the groups above -/
def other : TableSet :=
  TableSet.all.diff (.unions [letter, mark, number, punctuation, symbol, separator])

/-- the code points without a character; those that no character can have are no part of it -/
def unassigned : TableSet := other.diff (.unions [control, format, privateUse, .rows surrogates])

/-- the code points with a character -/
def assigned : TableSet := TableSet.all.diff (unassigned.union (.rows surrogates))

end Category

/-- the general categories and their groups, each with its names -/
def categories : List (List String × TableSet) :=
  [
    (["l", "letter"], Category.letter),
    (["lu", "uppercaseletter"], Category.uppercaseLetter),
    (["ll", "lowercaseletter"], Category.lowercaseLetter),
    (["lt", "titlecaseletter"], Category.titlecaseLetter),
    (["lc", "casedletter"], Category.casedLetter),
    (["lm", "modifierletter"], Category.modifierLetter),
    (["lo", "otherletter"], Category.otherLetter),
    (["m", "mark", "combiningmark"], Category.mark),
    (["mn", "nonspacingmark"], Category.nonspacingMark),
    (["mc", "spacingmark"], Category.spacingMark),
    (["me", "enclosingmark"], Category.enclosingMark),
    (["n", "number"], Category.number),
    (["nd", "decimalnumber", "digit"], Category.decimalNumber),
    (["nl", "letternumber"], Category.letterNumber),
    (["no", "othernumber"], Category.otherNumber),
    (["p", "punctuation", "punct"], Category.punctuation),
    (["pc", "connectorpunctuation"], Category.connector),
    (["pd", "dashpunctuation"], Category.dash),
    (["ps", "openpunctuation"], Category.openPunctuation),
    (["pe", "closepunctuation"], Category.closePunctuation),
    (["pi", "initialpunctuation"], Category.initialQuote),
    (["pf", "finalpunctuation"], Category.finalQuote),
    (["po", "otherpunctuation"], Category.otherPunctuation),
    (["s", "symbol"], Category.symbol),
    (["sm", "mathsymbol"], Category.mathSymbol),
    (["sc", "currencysymbol"], Category.currencySymbol),
    (["sk", "modifiersymbol"], Category.modifierSymbol),
    (["so", "othersymbol"], Category.otherSymbol),
    (["z", "separator"], Category.separator),
    (["zs", "spaceseparator"], Category.spaceSeparator),
    (["zl", "lineseparator"], Category.lineSeparator),
    (["zp", "paragraphseparator"], Category.paragraphSeparator),
    (["c", "other"], Category.other),
    (["cc", "control", "cntrl"], Category.control),
    (["cf", "format"], Category.format),
    (["co", "privateuse"], Category.privateUse),
    (["cn", "unassigned"], Category.unassigned),
    (["any"], TableSet.all),
    (["assigned"], Category.assigned),
    (["ascii"], .rows [(0, 0x7F)])]

end ScopedStore.Unicode
