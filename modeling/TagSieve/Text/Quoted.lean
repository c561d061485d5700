import TagSieve.Unicode.Properties

/-!
Text as reports show it: in double quotes, with everything escaped that has no shape of its own.
-/

namespace TagSieve.Quoted

/-- The lower-case hexadecimal digits of a number. -/
def hexText (n : Nat) : List Char := Nat.toDigits 16 n

/-- The fillers of Hangul: letters without a shape. -/
def fillerRanges : Unicode.Ranges := [(0x115F, 0x1160), (0x3164, 0x3164), (0xFFA0, 0xFFA0)]

/-- The halfwidth sound marks of Katakana: they extend the letter before them, but have a shape and
a width of their own. -/
def soundMarkRanges : Unicode.Ranges := [(0xFF9E, 0xFF9F)]

/-- Whether a character is shown as it is: it has a shape that does not hang on the one before. -/
def standsAlone (c : Char) : Bool :=
  (!Unicode.isGraphemeExtend c || soundMarkRanges.covers c.toNat) && Unicode.isPrintable c &&
    !fillerRanges.covers c.toNat

/-- One character inside double quotes. -/
def showChar (c : Char) : List Char :=
  match c with
  | '\x00' => ['\\', '0']
  | '\t' => ['\\', 't']
  | '\r' => ['\\', 'r']
  | '\n' => ['\\', 'n']
  | '"' => ['\\', '"']
  | '\\' => ['\\', '\\']
  | c =>
    if standsAlone c then [c] else ['\\', 'u', '\x7b'] ++ hexText c.toNat ++ ['\x7d']

def showText (s : String) : List Char := '"' :: (s.toList.flatMap showChar ++ ['"'])

end TagSieve.Quoted
