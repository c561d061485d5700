import TagSieve.Unicode.Emoji
import TagSieve.Unicode.Ideograph
import TagSieve.Unicode.Punctuation
import TagSieve.Unicode.Script
import TagSieve.Unicode.Special

/-!
The classes that the rules for the borders of graphemes, words and sentences tell apart, as of
Unicode 16, under their short and long names. Each is built from other properties and a few
characters of its own.
-/

namespace TagSieve.Unicode.Segmentation

open Category

/-- A set of single characters. -/
def chars (ns : List Nat) : Ranges := Ranges.ofPairs (ns.map fun n => (n, n))

/-- The characters of a script by its name. -/
def script (name : String) : Ranges :=
  ((Script.table.find? fun entry => entry.1.contains name).map (·.2)).getD []

def zeroWidthJoiner : Ranges := chars [0x200D]

/-! ### Graphemes -/

/-- What extends a grapheme, the joiner left out. -/
def graphemeExtenders : Ranges := (Sixteen.graphemeExtend).union emojiModifierRanges

def graphemePrepended : Ranges :=
  Ranges.unionAll
    [prependedMarkRanges,
     [(0xD4E, 0xD4E), (0x111C2, 0x111C3), (0x113D1, 0x113D1), (0x1193F, 0x1193F),
      (0x11941, 0x11941), (0x11A3A, 0x11A3A), (0x11A84, 0x11A89), (0x11D46, 0x11D46),
      (0x11F02, 0x11F02)]]

/-- The invisible characters that stand alone. -/
def graphemeControls : Ranges :=
  (Ranges.unionAll
    [Sixteen.categories [lineSeparator, paragraphSeparator, control, format],
     Sixteen.unassigned.intersection defaultIgnorableRanges]).difference <|
    Ranges.unionAll [chars [0x0A, 0x0D, 0x200C, 0x200D], prependedMarkRanges, graphemeExtenders]

/-- The spacing marks that do not join the letter before them. -/
def looseSpacingMarks : Ranges :=
  [(0x102B, 0x102C), (0x1038, 0x1038), (0x1062, 0x1064), (0x1067, 0x106D), (0x1083, 0x1083),
   (0x1087, 0x108C), (0x108F, 0x108F), (0x109A, 0x109C), (0x1A61, 0x1A61), (0x1A63, 0x1A64),
   (0xAA7B, 0xAA7B), (0xAA7D, 0xAA7D), (0x11720, 0x11721)]

def graphemeSpacingMarks : Ranges :=
  ((Sixteen.category spacingMark).union (chars [0xE33, 0xEB3])).difference <|
    graphemeExtenders.union looseSpacingMarks

/-- The Hangul syllables without a final consonant. -/
def openSyllables : Ranges := chars ((List.range 399).map fun k => 0xAC00 + 28 * k)

def graphemeTable : List (List String × Ranges) :=
  [(["cr"], chars [0x0D]),
   (["lf"], chars [0x0A]),
   (["cn", "control"], graphemeControls),
   (["ex", "extend"], graphemeExtenders.difference zeroWidthJoiner),
   (["zwj"], zeroWidthJoiner),
   (["ri", "regionalindicator"], regionalIndicatorRanges),
   (["pp", "prepend"], graphemePrepended),
   (["sm", "spacingmark"], graphemeSpacingMarks),
   (["l"], [(0x1100, 0x115F), (0xA960, 0xA97C)]),
   (["v"], [(0x1160, 0x11A7), (0xD7B0, 0xD7C6), (0x16D63, 0x16D63), (0x16D67, 0x16D6A)]),
   (["t"], [(0x11A8, 0x11FF), (0xD7CB, 0xD7FB)]),
   (["lv"], openSyllables),
   (["lvt"], Ranges.difference [(0xAC00, 0xD7A3)] openSyllables)]

/-! ### Words -/

/-- What belongs to the character before it, the joiner left out. -/
def trailing : Ranges := (Sixteen.graphemeExtend).union (Sixteen.category spacingMark)

def wordExtenders : Ranges := (trailing.union emojiModifierRanges).difference zeroWidthJoiner

/-- Format characters that neither extend a character nor stand before digits. -/
def formats : Ranges :=
  (Sixteen.category format).difference <|
    Ranges.unionAll [trailing, zeroWidthJoiner, prependedMarkRanges]

def katakana : Ranges :=
  (script "katakana").union
    [(0x3031, 0x3035), (0x309B, 0x309C), (0x30A0, 0x30A0), (0x30FC, 0x30FC), (0xFF70, 0xFF70)]

def hebrewLetters : Ranges := (script "hebrew").intersection (Sixteen.category otherLetter)

/-- Decimal digits with the marks that stand before them and the Arabic separators. -/
def numerals : Ranges :=
  Ranges.unionAll
    [Sixteen.digit, [(0x66B, 0x66C)], prependedMarkRanges.difference (chars [0x70F])]

/-- The scripts that write no spaces between words. -/
def unspacedRanges : Ranges :=
  [(0xE01, 0xE3A), (0xE40, 0xE4E), (0xE81, 0xE82), (0xE84, 0xE84), (0xE86, 0xE8A), (0xE8C, 0xEA3),
   (0xEA5, 0xEA5), (0xEA7, 0xEBD), (0xEC0, 0xEC4), (0xEC6, 0xEC6), (0xEC8, 0xECE), (0xEDC, 0xEDF),
   (0x1000, 0x103F), (0x1050, 0x108F), (0x109A, 0x109F), (0x1780, 0x17D3), (0x17D7, 0x17D7),
   (0x17DC, 0x17DD), (0x1950, 0x196D), (0x1970, 0x1974), (0x1980, 0x19AB), (0x19B0, 0x19C9),
   (0x19DA, 0x19DA), (0x19DE, 0x19DF), (0x1A20, 0x1A5E), (0x1A60, 0x1A7C), (0x1AA0, 0x1AAD),
   (0xA9E0, 0xA9EF), (0xA9FA, 0xA9FE), (0xAA60, 0xAAC2), (0xAADB, 0xAADF), (0x11700, 0x1171A),
   (0x1171D, 0x1172B), (0x1173A, 0x1173B), (0x1173F, 0x11746)]

/-- What counts as a letter of words without being alphabetic. -/
def furtherLetterRanges : Ranges :=
  [(0x2C2, 0x2C5), (0x2D2, 0x2D7), (0x2DE, 0x2DF), (0x2E5, 0x2EB), (0x2ED, 0x2ED), (0x2EF, 0x2FF),
   (0x55A, 0x55C), (0x55E, 0x55E), (0x58A, 0x58A), (0x5F3, 0x5F3), (0x70F, 0x70F),
   (0xA708, 0xA716), (0xA720, 0xA721), (0xA789, 0xA78A), (0xAB5B, 0xAB5B)]

def wordLetters : Ranges :=
  (Sixteen.alphabetic.difference <|
    Ranges.unionAll
      [ideographicRanges, katakana, hebrewLetters, script "hiragana", unspacedRanges, trailing]).union
    furtherLetterRanges

def wordTable : List (List String × Ranges) :=
  [(["cr"], chars [0x0D]),
   (["lf"], chars [0x0A]),
   (["nl", "newline"], [(0x0B, 0x0C), (0x85, 0x85), (0x2028, 0x2029)]),
   (["extend"], wordExtenders),
   (["zwj"], zeroWidthJoiner),
   (["ri", "regionalindicator"], regionalIndicatorRanges),
   (["fo", "format"], formats.difference (chars [0x200B])),
   (["ka", "katakana"], katakana),
   (["hl", "hebrewletter"], hebrewLetters),
   (["le", "aletter"], wordLetters),
   (["sq", "singlequote"], chars [0x27]),
   (["dq", "doublequote"], chars [0x22]),
   (["mb", "midnumlet"], chars [0x2E, 0x2018, 0x2019, 0x2024, 0xFE52, 0xFF07, 0xFF0E]),
   (["ml", "midletter"], chars [0x3A, 0xB7, 0x387, 0x55F, 0x5F4, 0x2027, 0xFE13, 0xFE55, 0xFF1A]),
   (["mn", "midnum"],
    chars [0x2C, 0x3B, 0x37E, 0x589, 0x60C, 0x60D, 0x66C, 0x7F8, 0x2044, 0xFE10, 0xFE14, 0xFE50,
      0xFE54, 0xFF0C, 0xFF1B]),
   (["nu", "numeric"], numerals.difference (chars [0x66C])),
   (["ex", "extendnumlet"], (Sixteen.category connectorPunctuation).union (chars [0x202F])),
   (["wsegspace"],
    (Sixteen.category spaceSeparator).difference (chars [0xA0, 0x2007, 0x202F]))]

/-! ### Sentences -/

def sentenceSeparators : Ranges := chars [0x85, 0x2028, 0x2029]

def sentenceExtenders : Ranges := trailing.union zeroWidthJoiner

/-- The capital letters of Georgian. -/
def georgianCapitals : Ranges := [(0x1C90, 0x1CBA), (0x1CBD, 0x1CBF)]

/-- The letters of Georgian, which are lowercase but start sentences. -/
def georgianLetters : Ranges := [(0x10D0, 0x10FA), (0x10FD, 0x10FF)]

def sentenceLower : Ranges :=
  Sixteen.lowercase.difference (sentenceExtenders.union georgianLetters)

def sentenceUpper : Ranges :=
  (Sixteen.uppercase.union (Sixteen.category titlecaseLetter)).difference georgianCapitals

def sentenceLetters : Ranges :=
  (Sixteen.alphabetic.difference <|
    Ranges.unionAll [sentenceLower, sentenceUpper, sentenceExtenders]).union (chars [0x5F3, 0x70F])

/-- Full stops that may also end an abbreviation. -/
def fullStops : Ranges := chars [0x2E, 0x2024, 0xFE52, 0xFF0E]

/-- Brackets and quotation marks. -/
def closing : Ranges :=
  Ranges.unionAll
    [Sixteen.categories
      [openPunctuation, closePunctuation, initialPunctuation, finalPunctuation],
     [(0x22, 0x22), (0x27, 0x27), (0x275B, 0x2760), (0x2E00, 0x2E01), (0x2E06, 0x2E08),
      (0x2E0B, 0x2E0B), (0x1F676, 0x1F678)]]

def sentenceTable : List (List String × Ranges) :=
  [(["cr"], chars [0x0D]),
   (["lf"], chars [0x0A]),
   (["ex", "extend"], sentenceExtenders),
   (["se", "sep"], sentenceSeparators),
   (["fo", "format"], formats),
   (["sp"], Sixteen.space.difference (sentenceSeparators.union (chars [0x0A, 0x0D]))),
   (["lo", "lower"], sentenceLower),
   (["up", "upper"], sentenceUpper),
   (["le", "oletter"], sentenceLetters),
   (["nu", "numeric"], numerals),
   (["at", "aterm"], fullStops),
   (["sc", "scontinue"],
    [(0x2C, 0x2D), (0x3A, 0x3B), (0x37E, 0x37E), (0x55D, 0x55D), (0x60C, 0x60D), (0x7F8, 0x7F8),
     (0x1802, 0x1802), (0x1808, 0x1808), (0x2013, 0x2014), (0x3001, 0x3001), (0xFE10, 0xFE11),
     (0xFE13, 0xFE14), (0xFE31, 0xFE32), (0xFE50, 0xFE51), (0xFE54, 0xFE55), (0xFE58, 0xFE58),
     (0xFE63, 0xFE63), (0xFF0C, 0xFF0D), (0xFF1A, 0xFF1B), (0xFF64, 0xFF64)]),
   (["st", "sterm"], sentenceTerminalRanges.difference fullStops),
   (["cl", "close"], closing)]

end TagSieve.Unicode.Segmentation
