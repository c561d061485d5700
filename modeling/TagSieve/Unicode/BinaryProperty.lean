import TagSieve.Unicode.CaseChange
import TagSieve.Unicode.Emoji
import TagSieve.Unicode.Identifier
import TagSieve.Unicode.Ideograph
import TagSieve.Unicode.Modifier
import TagSieve.Unicode.Punctuation
import TagSieve.Unicode.Special

/-!
The binary properties as of Unicode 16, under their short and long names. Names are written in
lower case and without underscores.
-/

namespace TagSieve.Unicode.BinaryProperty

open Category

/-- The properties of letters and of their case. -/
def letterTable : List (List String × Ranges) :=
  [(["alpha", "alphabetic"], Sixteen.alphabetic),
   (["upper", "uppercase"], Sixteen.uppercase),
   (["lower", "lowercase"], Sixteen.lowercase),
   (["cased"], Sixteen.cased),
   (["ci", "caseignorable"],
    (Sixteen.categories
      [nonspacingMark, enclosingMark, format, modifierLetter, modifierSymbol]).union midWordRanges),
   (["cwl", "changeswhenlowercased"], changesWhenLowercased),
   (["cwu", "changeswhenuppercased"], changesWhenUppercased),
   (["cwt", "changeswhentitlecased"], changesWhenTitlecased),
   (["cwcf", "changeswhencasefolded"], changesWhenFolded),
   (["cwcm", "changeswhencasemapped"], changesWhenMapped),
   (["oalpha", "otheralphabetic"], Sixteen.earlier otherAlphabeticRanges),
   (["oupper", "otheruppercase"], otherUppercaseRanges),
   (["olower", "otherlowercase"], Sixteen.earlier otherLowercaseRanges),
   (["ideo", "ideographic"], ideographicRanges),
   (["uideo", "unifiedideograph"], unifiedIdeographRanges),
   (["radical"], radicalRanges),
   (["idsu", "idsunaryoperator"], descriptionUnaryRanges),
   (["idsb", "idsbinaryoperator"], descriptionBinaryRanges),
   (["idst", "idstrinaryoperator"], descriptionTrinaryRanges)]

/-- The properties of identifiers. -/
def identifierTable : List (List String × Ranges) :=
  [(["ids", "idstart"], idStart),
   (["idc", "idcontinue"], idContinue),
   (["xids", "xidstart"], xidStart),
   (["xidc", "xidcontinue"], xidContinue),
   (["oids", "otheridstart"], otherIdStartRanges),
   (["oidc", "otheridcontinue"], otherIdContinueRanges),
   (["idcompatmathstart"], mathIdStartRanges),
   (["idcompatmathcontinue"], Ranges.unionAll [mathIdStartRanges, mathIdContinueRanges]),
   (["patsyn", "patternsyntax"], patternSyntaxRanges),
   (["patws", "patternwhitespace"], patternSpaceRanges)]

/-- The properties of marks and of graphemes. -/
def markTable : List (List String × Ranges) :=
  [(["grext", "graphemeextend"], Sixteen.graphemeExtend),
   (["ogrext", "othergraphemeextend"], Sixteen.earlier otherGraphemeExtendRanges),
   (["grbase", "graphemebase"],
    (Sixteen.categories
      (letters ++ spacingMark :: numbers ++ punctuation ++ symbols ++ [spaceSeparator])).difference
      Sixteen.graphemeExtend),
   (["grlink", "graphemelink"], graphemeLinkRanges),
   (["dia", "diacritic"], diacriticRanges),
   (["ext", "extender"], extenderRanges),
   (["sd", "softdotted"], softDottedRanges),
   (["loe", "logicalorderexception"], logicalOrderExceptionRanges),
   (["mcm", "modifiercombiningmark"], combiningModifierRanges),
   (["vs", "variationselector"], variationSelectorRanges)]

/-- The properties of punctuation, symbols and digits. -/
def symbolTable : List (List String × Ranges) :=
  [(["dash"], (Sixteen.category dashPunctuation).union otherDashRanges),
   (["hyphen"], hyphenRanges),
   (["qmark", "quotationmark"], quotationMarkRanges),
   (["term", "terminalpunctuation"], terminalPunctuationRanges),
   (["sterm", "sentenceterminal"], sentenceTerminalRanges),
   (["pcm", "prependedconcatenationmark"], prependedMarkRanges),
   (["math"], (Sixteen.category mathSymbol).union otherMathRanges),
   (["omath", "othermath"], otherMathRanges),
   (["hex", "hexdigit"], hexDigitRanges),
   (["ahex", "asciihexdigit"], asciiHexDigitRanges),
   (["emoji"], emojiRanges),
   (["epres", "emojipresentation"], emojiPresentationRanges),
   (["ebase", "emojimodifierbase"], emojiModifierBaseRanges),
   (["emod", "emojimodifier"], emojiModifierRanges),
   (["ecomp", "emojicomponent"], emojiComponentRanges),
   (["extpict", "extendedpictographic"], extendedPictographicRanges),
   (["ri", "regionalindicator"], regionalIndicatorRanges)]

/-- The properties of blanks, controls and special code points. -/
def controlTable : List (List String × Ranges) :=
  [(["space", "wspace", "whitespace"], Sixteen.space),
   (["bidic", "bidicontrol"], bidiControlRanges),
   (["joinc", "joincontrol"], Sixteen.joiners),
   (["di", "defaultignorablecodepoint"], defaultIgnorableRanges),
   (["odi", "otherdefaultignorablecodepoint"], otherDefaultIgnorableRanges),
   (["dep", "deprecated"], deprecatedRanges),
   (["nchar", "noncharactercodepoint"], noncharacterRanges)]

def table : List (List String × Ranges) :=
  letterTable ++ identifierTable ++ markTable ++ symbolTable ++ controlTable

end TagSieve.Unicode.BinaryProperty
