/-
Properties of characters that follow from categories and from other properties.
-/
import BinlogCursor.Text.Category
import BinlogCursor.Text.Table.Breaks
import BinlogCursor.Text.Table.Properties

namespace BinlogCursor.Text.Property.Derived

def lowercase : Ranges :=
  (Category.rangesOf [.ll]).union (.decode Table.otherLowercase)

def uppercase : Ranges :=
  (Category.rangesOf [.lu]).union (.decode Table.otherUppercase)

/-- Letters that come in several cases. -/
def cased : Ranges :=
  (lowercase.union uppercase).union (Category.rangesOf [.lt])

def alphabetic : Ranges :=
  (cased.union (Category.rangesOf [.lm, .lo, .nl])).union (.decode Table.otherAlphabetic)

/-- Marks that belong to the character before them. -/
def graphemeExtend : Ranges :=
  (Category.rangesOf [.me, .mn]).union (.decode Table.otherGraphemeExtend)

def graphemeBase : Ranges :=
  (Ranges.full.diff (Category.rangesOf [.cc, .cf, .cs, .co, .cn, .zl, .zp])).diff graphemeExtend

/-- Characters that do not count where the case of letters depends on those around them. -/
def caseIgnorable : Ranges :=
  let marks := Category.rangesOf [.mn, .me, .cf, .lm, .sk]
  let middle := (Ranges.decode Table.midLetter).union (.decode Table.midNumberOrLetter)
  (marks.union middle).union [('\''.toNat, '\''.toNat)]

def defaultIgnorableCodePoint : Ranges :=
  let invisible := (Ranges.decode Table.otherDefaultIgnorableCodePoint).union
    ((Category.rangesOf [.cf]).union (.decode Table.variationSelector))
  -- annotations and the joiners of hieroglyphs are format characters that show
  ((invisible.diff (.decode Table.whiteSpace)).diff [(0xFFF9, 0xFFFB), (0x13430, 0x1343F)]).diff
    (.decode Table.prependedConcatenationMark)

def patternCharacters : Ranges :=
  (Ranges.decode Table.patternSyntax).union (.decode Table.patternWhiteSpace)

def idStart : Ranges :=
  ((Category.rangesOf [.lu, .ll, .lt, .lm, .lo, .nl]).union (.decode Table.otherIdStart)).diff
    patternCharacters

def idContinue : Ranges :=
  (idStart.union ((Category.rangesOf [.mn, .mc, .nd, .pc]).union
    (.decode Table.otherIdContinue))).diff patternCharacters

def changesWhenLowercased : Ranges :=
  uppercase.symmDiff (.decode Table.lowercasedExceptions)

def changesWhenUppercased : Ranges :=
  lowercase.symmDiff (.decode Table.uppercasedExceptions)

def changesWhenTitlecased : Ranges :=
  changesWhenUppercased.symmDiff (.decode Table.titlecasedExceptions)

def changesWhenCasefolded : Ranges :=
  changesWhenLowercased.symmDiff (.decode Table.casefoldedExceptions)

/-- The characters of words: letters, marks, digits, connecting punctuation, and the joiners. -/
def word : Ranges :=
  (alphabetic.union (Category.rangesOf [.mn, .mc, .me, .nd, .pc])).union (.decode Table.joinControl)

end BinlogCursor.Text.Property.Derived
