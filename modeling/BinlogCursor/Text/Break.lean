/-
Characters by their part in the division of text into clusters, words and
sentences, under the names of the parts. Characters that play no part have no
name here.
-/
import BinlogCursor.Text.Property.Derived

namespace BinlogCursor.Text.Break

def single (c : Char) : Ranges :=
  [(c.toNat, c.toNat)]

def joiner : Ranges :=
  [(0x200D, 0x200D)]

/-- The first and the last syllable of Hangul. -/
def syllables : Nat × Nat :=
  (0xAC00, 0xD7A3)

/-- How many syllables of Hangul begin alike and differ in their last consonant, the first of them
having none. -/
def syllablesPerVowel : Nat :=
  28

def openSyllables : Ranges :=
  (List.range ((syllables.2 - syllables.1 + 1) / syllablesPerVowel)).map fun i =>
    let n := syllables.1 + i * syllablesPerVowel
    (n, n)

def closedSyllables : Ranges :=
  Ranges.diff [syllables] openSyllables

def clusterPart? : String → Option Ranges
  | "cn" | "control" => some (.decode Table.clusterControl)
  | "cr" => some (single '\r')
  | "lf" => some (single '\n')
  | "ex" | "extend" => some (Property.Derived.graphemeExtend.union (.decode Table.emojiModifier))
  | "l" => some (.decode Table.leadingJamo)
  | "v" => some (.decode Table.vowelJamo)
  | "t" => some (.decode Table.trailingJamo)
  | "lv" => some openSyllables
  | "lvt" => some closedSyllables
  | "pp" | "prepend" => some (.decode Table.clusterPrepend)
  | "ri" | "regionalindicator" => some (.decode Table.regionalIndicator)
  | "sm" | "spacingmark" => some (.decode Table.clusterSpacingMark)
  | "zwj" => some joiner
  | _ => none

def marks : Ranges :=
  Property.Derived.graphemeExtend.union (Category.rangesOf [.mc])

def wordPart? : String → Option Ranges
  | "le" | "aletter" => some (.decode Table.wordLetter)
  | "cr" => some (single '\r')
  | "dq" | "doublequote" => some (single '"')
  | "extend" => some (marks.union (.decode Table.emojiModifier))
  | "ex" | "extendnumlet" => some (.decode Table.wordConnector)
  | "fo" | "format" => some (.decode Table.wordFormat)
  | "hl" | "hebrewletter" => some (.decode Table.hebrewLetter)
  | "ka" | "katakana" => some (.decode Table.wordKatakana)
  | "lf" => some (single '\n')
  | "ml" | "midletter" => some (.decode Table.midLetter)
  | "mn" | "midnum" => some (.decode Table.midNumber)
  | "mb" | "midnumlet" => some (.decode Table.midNumberOrLetter)
  | "nl" | "newline" => some (.decode Table.wordNewline)
  | "nu" | "numeric" => some (.decode Table.wordNumeric)
  | "ri" | "regionalindicator" => some (.decode Table.regionalIndicator)
  | "sq" | "singlequote" => some (single '\'')
  | "wsegspace" => some (.decode Table.wordSpace)
  | "zwj" => some joiner
  | _ => none

/-- Small letters, as far as sentences are concerned: those of Georgian do not tell where a sentence
begins, and the iota below a letter is a mark. -/
def sentenceLower : Ranges :=
  Property.Derived.lowercase.diff [(0x345, 0x345), (0x10D0, 0x10FA), (0x10FD, 0x10FF)]

def sentenceUpper : Ranges :=
  (Property.Derived.uppercase.union (Category.rangesOf [.lt])).diff
    [(0x1C90, 0x1CBA), (0x1CBD, 0x1CBF)]

def sentenceExtend : Ranges :=
  marks.union joiner

def sentenceLetter : Ranges :=
  let others := (sentenceLower.union sentenceUpper).union sentenceExtend
  (Property.Derived.alphabetic.diff others).union [(0x5F3, 0x5F3)]

def sentencePart? : String → Option Ranges
  | "at" | "aterm" => some (.decode Table.sentenceDot)
  | "cr" => some (single '\r')
  | "cl" | "close" => some (.decode Table.sentenceClose)
  | "ex" | "extend" => some sentenceExtend
  | "fo" | "format" => some (.decode Table.sentenceFormat)
  | "lf" => some (single '\n')
  | "lo" | "lower" => some sentenceLower
  | "nu" | "numeric" => some (.decode Table.sentenceNumeric)
  | "le" | "oletter" => some sentenceLetter
  | "sc" | "scontinue" => some (.decode Table.sentenceContinue)
  | "st" | "sterm" => some (.decode Table.sentenceEnd)
  | "se" | "sep" => some [(0x85, 0x85), (0x2028, 0x2029)]
  | "sp" => some (.decode Table.sentenceSpace)
  | "up" | "upper" => some sentenceUpper
  | _ => none

end BinlogCursor.Text.Break
