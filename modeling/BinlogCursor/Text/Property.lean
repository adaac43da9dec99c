/-
Properties that a character has or has not, their names, and their characters.
-/
import BinlogCursor.Text.Property.Derived

namespace BinlogCursor.Text

inductive Property
  | asciiHexDigit | alphabetic | bidiControl | bidiMirrored | caseIgnorable | cased
  | changesWhenCasefolded | changesWhenCasemapped | changesWhenLowercased | changesWhenTitlecased
  | changesWhenUppercased | dash | defaultIgnorableCodePoint | deprecated | diacritic | emoji
  | emojiComponent | emojiModifier | emojiModifierBase | emojiPresentation | extendedPictographic
  | extender | graphemeBase | graphemeExtend | graphemeLink | hexDigit | hyphen
  | idsBinaryOperator | idsTrinaryOperator | idsUnaryOperator | idCompatMathContinue
  | idCompatMathStart | idContinue | idStart | ideographic | joinControl | logicalOrderException
  | lowercase | math | modifierCombiningMark | noncharacterCodePoint | otherAlphabetic
  | otherDefaultIgnorableCodePoint | otherGraphemeExtend | otherIdContinue | otherIdStart
  | otherLowercase | otherMath | otherUppercase | patternSyntax | patternWhiteSpace
  | prependedConcatenationMark | quotationMark | radical | regionalIndicator | sentenceTerminal
  | softDotted | terminalPunctuation | unifiedIdeograph | uppercase | variationSelector
  | whiteSpace | xidContinue | xidStart
deriving DecidableEq

namespace Property

/-- The short and the long names of each property, in small letters only. -/
def names : List (List String × Property) := [
  (["ahex", "asciihexdigit"], .asciiHexDigit), (["alpha", "alphabetic"], .alphabetic),
  (["bidic", "bidicontrol"], .bidiControl), (["bidim", "bidimirrored"], .bidiMirrored),
  (["caseignorable", "ci"], .caseIgnorable), (["cased"], .cased),
  (["changeswhencasefolded", "cwcf"], .changesWhenCasefolded),
  (["changeswhencasemapped", "cwcm"], .changesWhenCasemapped),
  (["changeswhenlowercased", "cwl"], .changesWhenLowercased),
  (["changeswhentitlecased", "cwt"], .changesWhenTitlecased),
  (["changeswhenuppercased", "cwu"], .changesWhenUppercased), (["dash"], .dash),
  (["defaultignorablecodepoint", "di"], .defaultIgnorableCodePoint),
  (["dep", "deprecated"], .deprecated), (["dia", "diacritic"], .diacritic), (["emoji"], .emoji),
  (["ecomp", "emojicomponent"], .emojiComponent), (["emod", "emojimodifier"], .emojiModifier),
  (["ebase", "emojimodifierbase"], .emojiModifierBase),
  (["emojipresentation", "epres"], .emojiPresentation),
  (["extendedpictographic", "extpict"], .extendedPictographic), (["ext", "extender"], .extender),
  (["graphemebase", "grbase"], .graphemeBase), (["graphemeextend", "grext"], .graphemeExtend),
  (["graphemelink", "grlink"], .graphemeLink), (["hex", "hexdigit"], .hexDigit),
  (["hyphen"], .hyphen), (["idsb", "idsbinaryoperator"], .idsBinaryOperator),
  (["idst", "idstrinaryoperator"], .idsTrinaryOperator),
  (["idsu", "idsunaryoperator"], .idsUnaryOperator),
  (["idcompatmathcontinue"], .idCompatMathContinue), (["idcompatmathstart"], .idCompatMathStart),
  (["idc", "idcontinue"], .idContinue), (["ids", "idstart"], .idStart),
  (["ideo", "ideographic"], .ideographic), (["joinc", "joincontrol"], .joinControl),
  (["loe", "logicalorderexception"], .logicalOrderException),
  (["lower", "lowercase"], .lowercase), (["math"], .math),
  (["mcm", "modifiercombiningmark"], .modifierCombiningMark),
  (["nchar", "noncharactercodepoint"], .noncharacterCodePoint),
  (["oalpha", "otheralphabetic"], .otherAlphabetic),
  (["odi", "otherdefaultignorablecodepoint"], .otherDefaultIgnorableCodePoint),
  (["ogrext", "othergraphemeextend"], .otherGraphemeExtend),
  (["oidc", "otheridcontinue"], .otherIdContinue), (["oids", "otheridstart"], .otherIdStart),
  (["olower", "otherlowercase"], .otherLowercase), (["omath", "othermath"], .otherMath),
  (["otheruppercase", "oupper"], .otherUppercase), (["patsyn", "patternsyntax"], .patternSyntax),
  (["patternwhitespace", "patws"], .patternWhiteSpace),
  (["pcm", "prependedconcatenationmark"], .prependedConcatenationMark),
  (["qmark", "quotationmark"], .quotationMark), (["radical"], .radical),
  (["regionalindicator", "ri"], .regionalIndicator),
  (["sentenceterminal", "sterm"], .sentenceTerminal), (["sd", "softdotted"], .softDotted),
  (["term", "terminalpunctuation"], .terminalPunctuation),
  (["uideo", "unifiedideograph"], .unifiedIdeograph), (["upper", "uppercase"], .uppercase),
  (["variationselector", "vs"], .variationSelector),
  (["space", "whitespace", "wspace"], .whiteSpace), (["xidc", "xidcontinue"], .xidContinue),
  (["xids", "xidstart"], .xidStart)]

def ofName? (name : String) : Option Property :=
  (names.find? (·.1.contains name)).map (·.2)

def ranges : Property → Ranges
  | .asciiHexDigit => .decode Table.asciiHexDigit
  | .alphabetic => Derived.alphabetic
  | .bidiControl => .decode Table.bidiControl
  | .bidiMirrored => .decode Table.bidiMirrored
  | .caseIgnorable => Derived.caseIgnorable
  | .cased => Derived.cased
  | .changesWhenCasefolded => Derived.changesWhenCasefolded
  | .changesWhenCasemapped =>
    (Derived.changesWhenLowercased.union Derived.changesWhenUppercased).union
      Derived.changesWhenTitlecased
  | .changesWhenLowercased => Derived.changesWhenLowercased
  | .changesWhenTitlecased => Derived.changesWhenTitlecased
  | .changesWhenUppercased => Derived.changesWhenUppercased
  | .dash => .decode Table.dash
  | .defaultIgnorableCodePoint => Derived.defaultIgnorableCodePoint
  | .deprecated => .decode Table.deprecated
  | .diacritic => .decode Table.diacritic
  | .emoji => .decode Table.emoji
  | .emojiComponent => .decode Table.emojiComponent
  | .emojiModifier => .decode Table.emojiModifier
  | .emojiModifierBase => .decode Table.emojiModifierBase
  | .emojiPresentation => .decode Table.emojiPresentation
  | .extendedPictographic => .decode Table.extendedPictographic
  | .extender => .decode Table.extender
  | .graphemeBase => Derived.graphemeBase
  | .graphemeExtend => Derived.graphemeExtend
  | .graphemeLink => .decode Table.graphemeLink
  | .hexDigit => .decode Table.hexDigit
  | .hyphen => .decode Table.hyphen
  | .idsBinaryOperator => .decode Table.idsBinaryOperator
  | .idsTrinaryOperator => .decode Table.idsTrinaryOperator
  | .idsUnaryOperator => .decode Table.idsUnaryOperator
  | .idCompatMathContinue => .decode Table.idCompatMathContinue
  | .idCompatMathStart => .decode Table.idCompatMathStart
  | .idContinue => Derived.idContinue
  | .idStart => Derived.idStart
  | .ideographic => .decode Table.ideographic
  | .joinControl => .decode Table.joinControl
  | .logicalOrderException => .decode Table.logicalOrderException
  | .lowercase => Derived.lowercase
  | .math => (Category.rangesOf [.sm]).union (.decode Table.otherMath)
  | .modifierCombiningMark => .decode Table.modifierCombiningMark
  | .noncharacterCodePoint => .decode Table.noncharacterCodePoint
  | .otherAlphabetic => .decode Table.otherAlphabetic
  | .otherDefaultIgnorableCodePoint => .decode Table.otherDefaultIgnorableCodePoint
  | .otherGraphemeExtend => .decode Table.otherGraphemeExtend
  | .otherIdContinue => .decode Table.otherIdContinue
  | .otherIdStart => .decode Table.otherIdStart
  | .otherLowercase => .decode Table.otherLowercase
  | .otherMath => .decode Table.otherMath
  | .otherUppercase => .decode Table.otherUppercase
  | .patternSyntax => .decode Table.patternSyntax
  | .patternWhiteSpace => .decode Table.patternWhiteSpace
  | .prependedConcatenationMark => .decode Table.prependedConcatenationMark
  | .quotationMark => .decode Table.quotationMark
  | .radical => .decode Table.radical
  | .regionalIndicator => .decode Table.regionalIndicator
  | .sentenceTerminal => .decode Table.sentenceTerminal
  | .softDotted => .decode Table.softDotted
  | .terminalPunctuation => .decode Table.terminalPunctuation
  | .unifiedIdeograph => .decode Table.unifiedIdeograph
  | .uppercase => Derived.uppercase
  | .variationSelector => .decode Table.variationSelector
  | .whiteSpace => .decode Table.whiteSpace
  | .xidContinue => Derived.idContinue.diff (.decode Table.unstableContinues)
  | .xidStart => Derived.idStart.diff (.decode Table.unstableStarts)

end Property

end BinlogCursor.Text
