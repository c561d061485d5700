import TagSieve.Command.Error
import TagSieve.Unicode.Lowercase

/-!
The documentation that the command line shows.
-/

namespace TagSieve

/-- Lines of text, each with its end. -/
def linesText (ls : List String) : String := String.join (ls.map (· ++ "\n"))

inductive DocCategory where
  | grammar
  | operators
  | tagKeys
  | evaluation
deriving DecidableEq

namespace DocCategory

/-- The category of a name or of one of its short forms, whatever its case; underscores count as
hyphens. -/
def ofName? (name : String) : Option DocCategory :=
  let plain := (Unicode.lowercase name).toList.map fun c => if c = '_' then '-' else c
  match String.ofList plain with
  | "syntax" => some grammar
  | "operators" | "ops" => some operators
  | "tag-keys" | "tags" | "keys" => some tagKeys
  | "evaluation" | "eval" | "semantics" => some evaluation
  | _ => none

/-- The overview of the documentation. -/
def overview : String :=
  linesText [
    "TAGFILTER DOCUMENTATION",
    "",
    "A tag filter is a boolean expression that selects audio files by their",
    "metadata. Each simple condition compares two values, at least one of which is",
    "looked up on the file being tested.",
    "",
    "DOCUMENTATION CATEGORIES",
    "",
    "  syntax            Literals, keywords, grouping and negation",
    "  operators         Comparison, match and logical operators",
    "  tag-keys          Tag references and multi-valued tag selection",
    "  evaluation        Comparison domains, missing tags and undef",
    "",
    "QUICK REFERENCE",
    "",
    "  %artist           Tag value (all values joined with \" - \")",
    "  %\x7bartist=1\x7d       Second value of a multi-valued tag",
    "  filename          Path of the file",
    "  backend           Backend that read the tags",
    "  =~  !~            Regex match / non-match",
    "  &&  ||  !( )      And, or, negated group",
    "",
    "Run 'tagfilter doc <category>' for detailed documentation."]

/-- Literals, keywords, grouping and negation. -/
def grammarText : String :=
  linesText [
    "SYNTAX - Values, Grouping and Negation",
    "",
    "SIMPLE CONDITION",
    "  value OPERATOR value",
    "    Compares two values. At least one side must be dynamic (a tag key,",
    "    filename or backend): comparing two literals is rejected.",
    "",
    "    Examples:",
    "      %year >= 2000",
    "      2000 <= %year",
    "      filename =~ /\\.flac$/",
    "",
    "INTEGERS",
    "  42  -7  +3",
    "    Optional sign followed by decimal digits. A lone 0 is zero; a leading",
    "    0 followed by more digits is not a valid number.",
    "",
    "FLOATS",
    "  7.5  -0.25  3.",
    "    Like integers, with exactly one '.'.",
    "",
    "STRINGS",
    "  \"Pink Floyd\"",
    "    Delimited by double quotes. Inside, \\\" is a literal quote; any other",
    "    backslash is kept as is.",
    "",
    "REGEXES",
    "  /pattern/flags",
    "    Delimited by slashes, \\/ is a literal slash. Flags:",
    "      i    Case-insensitive",
    "      m    Newline-sensitive: '.' stops at newlines, ^ and $ match at",
    "           line boundaries",
    "    Each flag may appear once. The regex is compiled when the filter is",
    "    read, so a broken regex is reported before any file is tested.",
    "",
    "    The pattern syntax is close to POSIX extended regexes, with these",
    "    differences:",
    "      - a backslash always escapes, also inside [ ]: [a\\]] is 'a' or ']'",
    "      - an escape with no meaning, like \\y, is an error",
    "      - \\d, \\w, \\s and \x08 are available",
    "",
    "KEYWORDS",
    "  filename    Path of the file",
    "  backend     Identifier of the backend that read the tags",
    "  undef       \"No value\", only comparable against a tag key",
    "",
    "  Keywords are case-insensitive (FILENAME works too) and must not be",
    "  followed by a letter, digit or '_'.",
    "",
    "GROUPING",
    "  ( condition )",
    "    Parentheses only group. They never change how a value is compared.",
    "",
    "NEGATION",
    "  !( condition )",
    "    '!' must be followed by a parenthesized condition:",
    "      !(%genre == \"rock\")     valid",
    "      !%genre == \"rock\"       error"]

/-- The operators. -/
def operatorsText : String :=
  linesText [
    "OPERATORS - Comparison, Match and Logical",
    "",
    "COMPARISON OPERATORS",
    "  ==    Equal",
    "  !=    Not equal",
    "  <     Less than",
    "  >     Greater than",
    "  <=    Less than or equal",
    "  >=    Greater than or equal",
    "",
    "  Examples:",
    "    %track <= 3",
    "    %genre != \"jazz\"",
    "    %artist == %albumartist",
    "",
    "  Constraints:",
    "    - A regex is only allowed with =~ and !~",
    "    - The sides are compared in the order written",
    "",
    "MATCH OPERATORS",
    "  =~    The value matches the regex",
    "  !~    The value does not match the regex",
    "",
    "  Examples:",
    "    %title =~ /live/i",
    "    /^The / =~ %artist",
    "    filename !~ /\\.mp3$/",
    "",
    "  Constraints:",
    "    - Exactly one side must be a regex",
    "    - !~ is the exact negation of =~, so a missing tag never matches and",
    "      always \"does not match\"",
    "",
    "LOGICAL OPERATORS",
    "  &&    And (short-circuit)",
    "  ||    Or (short-circuit)",
    "  !()   Not, on a parenthesized condition",
    "",
    "  Examples:",
    "    %year >= 1990 && %year < 2000",
    "    %genre == \"rock\" || %genre == \"metal\"",
    "    !(%comment =~ /bootleg/i)",
    "",
    "OPERATOR PRECEDENCE (highest to lowest)",
    "  1. !()         Negated group",
    "  2. &&          And",
    "  3. ||          Or",
    "",
    "  Use parentheses to override: (%a == 1 || %b == 2) && %c == 3"]

/-- References to tags. -/
def tagKeysText : String :=
  linesText [
    "TAG-KEYS - Tag References",
    "",
    "SHORT FORM",
    "  %name",
    "    Letters, digits, '_' and '-'. Tag names are case-insensitive.",
    "",
    "    Example:",
    "      %artist == \"Nick Cave\"",
    "",
    "BRACED FORM",
    "  %\x7bname\x7d",
    "    Any characters up to the closing brace. Inside, \\\x7d and \\= stand for",
    "    '\x7d' and '='. %\x7b\x7d is the tag with an empty name.",
    "",
    "    Example:",
    "      %\x7bmusicbrainz album id\x7d == undef",
    "",
    "MULTI-VALUED TAGS",
    "  A file may carry the same tag several times. An optional selector after",
    "  '=' picks how the values are compared:",
    "",
    "  %\x7bartist\x7d         All values joined with \" - \" (same as %artist)",
    "  %\x7bartist=*\x7d       All values joined with \" - \"",
    "  %\x7bartist=N\x7d       The value at position N, counting from 0",
    "  %\x7bartist=*|\x7d      True if at least one value satisfies the comparison",
    "  %\x7bartist=*&\x7d      True if every value satisfies the comparison",
    "",
    "  Example, with artist = A, B, C:",
    "    %\x7bartist=*\x7d == \"A - B - C\"     true",
    "    %\x7bartist=1\x7d == \"B\"             true",
    "    %\x7bartist=*|\x7d == \"B\"            true",
    "    %\x7bartist=*&\x7d == \"B\"            false",
    "    %\x7bartist=5\x7d == \"B\"             false (no value at position 5)"]

/-- Comparisons and missing tags. -/
def evaluationText : String :=
  linesText [
    "EVALUATION - Comparison Domains and Missing Tags",
    "",
    "COMPARISON DOMAIN",
    "  The literal side decides how the dynamic side is read.",
    "",
    "  Integer literal",
    "    The leading integer of the tag value, after optional spaces and sign.",
    "    Text without a leading number reads as 0.",
    "      year = \"1999 (remaster)\"     %year == 1999     true",
    "",
    "  Float literal",
    "    The leading decimal number, with optional fraction and exponent.",
    "      replaygain = \"-6.5 dB\"       %replaygain < -6.0     true",
    "",
    "  String literal",
    "    Byte-wise comparison, so uppercase sorts before lowercase.",
    "",
    "  No literal",
    "    Both values compared as strings.",
    "      %artist == %albumartist",
    "",
    "MISSING TAGS",
    "  A comparison on a tag with no value is false, whatever the operator:",
    "      %genre == \"rock\"      false",
    "      %genre != \"rock\"      false",
    "      %genre =~ /rock/      false",
    "      %genre !~ /rock/      true (negation of the line above)",
    "  Only that condition is affected; the rest of the filter is evaluated as",
    "  usual:",
    "      !(%genre == \"rock\")   true",
    "",
    "UNDEF",
    "  undef compares equal to a missing tag and greater than any value:",
    "      %genre == undef       true when the file has no genre",
    "      %genre != undef       true when the file has a genre",
    "      %genre < undef        true when the file has a genre"]

def text : DocCategory → String
  | grammar => grammarText
  | operators => operatorsText
  | tagKeys => tagKeysText
  | evaluation => evaluationText

/-- The text of the category of a name. -/
def textOfName (name : String) : Except CommandError String :=
  match ofName? name with
  | some c => .ok c.text
  | none => .error (.unknownCategory name)

end DocCategory

end TagSieve
