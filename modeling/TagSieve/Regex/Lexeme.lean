import TagSieve.Regex.Tree
import TagSieve.Unicode.Property

/-!
The words of a pattern. Each reader takes the text that follows and gives what it read and the
rest, or nothing if the pattern is malformed. Where a pattern is `verbose`, blanks and comments
between words, and inside brackets and braces, mean nothing.
-/

namespace TagSieve.Regex

-- Powers are those of core, also where other instances are in scope.
attribute [local instance (high)] instPowNat

open Unicode

/-- Drops blanks and comments where they mean nothing. -/
def skipBlanks (verbose : Bool) (inComment : Bool) : List Char → List Char
  | [] => []
  | c :: rest =>
    if !verbose then c :: rest
    else if inComment then skipBlanks verbose (c != '\n') rest
    else if isWhitespace c then skipBlanks verbose false rest
    else if c = '#' then skipBlanks verbose true rest
    else c :: rest

/-- Takes characters while they are accepted, dropping blanks and comments among them. -/
def takeSpaced (verbose : Bool) (accept : Char → Bool) (inComment : Bool) :
    List Char → List Char × List Char
  | [] => ([], [])
  | c :: rest =>
    if inComment then takeSpaced verbose accept (c != '\n') rest
    else if verbose && isWhitespace c then takeSpaced verbose accept false rest
    else if verbose && c == '#' then takeSpaced verbose accept true rest
    else if accept c then
      let (taken, rest) := takeSpaced verbose accept false rest
      (c :: taken, rest)
    else ([], c :: rest)

/-! ### Escapes -/

def isHexDigit (c : Char) : Bool := (AsciiClass.ranges .xdigit).covers c.toNat

def hexValue (cs : List Char) : Nat :=
  cs.foldl (fun n c => 16 * n +
    if c.isDigit then c.toNat - '0'.toNat else c.toLower.toNat - 'a'.toNat + 10) 0

/-- The character of a code point, if there is one. -/
def scalar? (n : Nat) : Option Char :=
  if n.isValidChar then some (Char.ofNat n) else none

/-- Exactly so many hexadecimal digits. -/
def hexDigits (verbose : Bool) : Nat → List Char → Option (List Char × List Char)
  | 0, cs => some ([], cs)
  | n + 1, c :: rest =>
    if isHexDigit c then
      (hexDigits verbose n (skipBlanks verbose false rest)).map fun (ds, rest) => (c :: ds, rest)
    else none
  | _ + 1, [] => none

/-- A character by its code point: so many digits, or any number of them in braces. Two digits can
also mean a byte. -/
def hexEscape (verbose : Bool) (size : Nat) : List Char → Option (Tree × List Char)
  | '\x7b' :: rest =>
    match takeSpaced verbose isHexDigit false rest with
    | (d :: ds, '\x7d' :: rest) => (scalar? (hexValue (d :: ds))).map fun c => (.literal c, rest)
    | _ => none
  | cs => (hexDigits verbose size cs).bind fun (ds, rest) =>
    (scalar? (hexValue ds)).map fun c => (if size = 2 then .byte c else .literal c, rest)

/-- The text before and after the first place where `sep` stands. -/
def splitAtFirst (sep : List Char) : List Char → Option (List Char × List Char)
  | [] => none
  | c :: rest =>
    if sep.isPrefixOf (c :: rest) then some ([], (c :: rest).drop sep.length)
    else (splitAtFirst sep rest).map fun (before, after) => (c :: before, after)

/-- The property that stands in braces, a name or a name and a value, and whether what lacks it is
meant. -/
def propertyOfBraces (cs : List Char) : Option (Bool × Ranges) :=
  match splitAtFirst ['!', '='] cs with
  | some (name, value) => (Property.ofValue? name value).map fun r => (true, r)
  | none =>
    match splitAtFirst [':'] cs with
    | some (name, value) => (Property.ofValue? name value).map fun r => (false, r)
    | none =>
      match splitAtFirst ['='] cs with
      | some (name, value) => (Property.ofValue? name value).map fun r => (false, r)
      | none => (Property.ofName? cs).map fun r => (false, r)

/-- A property, by one letter or in braces. What stands behind `!=` is what the characters lack, so
that `\P` with `!=` means the same as `\p` with `=`. -/
def propertyEscape (verbose negated : Bool) : List Char → Option (Tree × List Char)
  | '\x7b' :: rest =>
    match takeSpaced verbose (· != '\x7d') false rest with
    | (name, '\x7d' :: rest) =>
      (propertyOfBraces name).map fun (lacks, r) => (.set (.property (negated != lacks) r), rest)
    | _ => none
  | '\\' :: _ => none
  | c :: rest => (Property.ofName? [c]).map fun r => (.set (.property negated r), rest)
  | [] => none

def isBoundaryLetter (c : Char) : Bool := c.isAlpha || c == '-'

/-- What stands in braces behind a word boundary. -/
def boundaryOfName? : List Char → Option Anchor
  | ['s', 't', 'a', 'r', 't'] => some .wordStart
  | ['e', 'n', 'd'] => some .wordEnd
  | ['s', 't', 'a', 'r', 't', '-', 'h', 'a', 'l', 'f'] => some .wordStartHalf
  | ['e', 'n', 'd', '-', 'h', 'a', 'l', 'f'] => some .wordEndHalf
  | _ => none

/-- A word boundary. Braces behind it name a special one if they start with a letter, and count a
repetition otherwise. -/
def boundaryEscape (verbose : Bool) : List Char → Option (Tree × List Char)
  | '\x7b' :: rest =>
    match skipBlanks verbose false rest with
    | [] => none
    | c :: more =>
      if isBoundaryLetter c then
        match takeSpaced verbose isBoundaryLetter false (c :: more) with
        | (name, '\x7d' :: rest) => (boundaryOfName? name).map fun a => (.anchor a, rest)
        | _ => none
      else some (.anchor .wordBoundary, '\x7b' :: rest)
  | cs => some (.anchor .wordBoundary, cs)

/-- Punctuation and blanks of ASCII stand for themselves behind a backslash. -/
def isPlainEscape (c : Char) : Bool :=
  decide (c.toNat < 128) && !c.isAlphanum && c != '<' && c != '>'

/-- What a backslash means with the text behind it. -/
def escape (verbose : Bool) : List Char → Option (Tree × List Char)
  | [] => none
  | c :: rest =>
    match c with
    | 'x' => hexEscape verbose 2 (skipBlanks verbose false rest)
    | 'u' => hexEscape verbose 4 (skipBlanks verbose false rest)
    | 'U' => hexEscape verbose 8 (skipBlanks verbose false rest)
    | 'p' => propertyEscape verbose false (skipBlanks verbose false rest)
    | 'P' => propertyEscape verbose true (skipBlanks verbose false rest)
    | 'd' => some (.set (.escape false .digit), rest)
    | 's' => some (.set (.escape false .space), rest)
    | 'w' => some (.set (.escape false .word), rest)
    | 'D' => some (.set (.escape true .digit), rest)
    | 'S' => some (.set (.escape true .space), rest)
    | 'W' => some (.set (.escape true .word), rest)
    | 'a' => some (.literal '\x07', rest)
    | 'f' => some (.literal '\x0c', rest)
    | 't' => some (.literal '\t', rest)
    | 'n' => some (.literal '\n', rest)
    | 'r' => some (.literal '\r', rest)
    | 'v' => some (.literal '\x0b', rest)
    | 'A' => some (.anchor .textStart, rest)
    | 'z' => some (.anchor .textEnd, rest)
    | 'b' => boundaryEscape verbose rest
    | 'B' => some (.anchor .noWordBoundary, rest)
    | '<' => some (.anchor .wordStart, rest)
    | '>' => some (.anchor .wordEnd, rest)
    | _ => if isPlainEscape c then some (.literal c, rest) else none

/-! ### Brackets -/

/-- A named class such as `[:alpha:]`, after its opening bracket. -/
def asciiClass (cs : List Char) : Option (Charset × List Char) :=
  match cs with
  | ':' :: rest =>
    let (negated, rest) := match rest with
      | '^' :: rest => (true, rest)
      | _ => (false, rest)
    match rest.dropWhile (· != ':') with
    | ':' :: ']' :: after =>
      (AsciiClass.ofName? (rest.takeWhile (· != ':'))).map fun k => (.ascii negated k, after)
    | _ => none
  | _ => none

/-- The start of a bracket: its negation, and the hyphens or the closing bracket that stand for
themselves because nothing precedes them. -/
def bracketStart (verbose : Bool) (cs : List Char) : Bool × Charset × List Char :=
  let (negated, cs) := match skipBlanks verbose false cs with
    | '^' :: rest => (true, skipBlanks verbose false rest)
    | rest => (false, rest)
  match takeSpaced verbose (· == '-') false cs with
  | ([], ']' :: rest) => (negated, .range ']' ']', rest)
  | (hyphens, rest) => (negated, hyphens.foldl (fun s _ => s.add (.range '-' '-')) .empty, rest)

/-- A member of a bracket: an escape or the character itself. -/
def member (verbose : Bool) : List Char → Option (Tree × List Char)
  | '\\' :: rest => escape verbose rest
  | c :: rest => some (.literal c, rest)
  | [] => none

/-- The character after the next one, blanks and the sign of a comment left out. -/
def peekSpaced (verbose : Bool) (cs : List Char) : Option Char :=
  if verbose then
    match cs.dropWhile isWhitespace with
    | '#' :: rest => (rest.dropWhile isWhitespace).head?
    | rest => rest.head?
  else cs.head?

/-- The character that a member is, if it is one. -/
def Tree.toChar? : Tree → Option Char
  | .literal c | .byte c => some c
  | _ => none

def Tree.toMember? : Tree → Option Charset
  | .literal c | .byte c => some (.range c c)
  | .set s => some s
  | _ => none

/-- A member or a range of a bracket. A hyphen before the closing bracket or another hyphen makes
no range. -/
def memberRange (verbose : Bool) (cs : List Char) : Option (Charset × List Char) := do
  let (first, rest) ← member verbose cs
  match skipBlanks verbose false rest with
  | [] => none
  | '-' :: after =>
    if peekSpaced verbose after = some ']' ∨ peekSpaced verbose after = some '-' then
      return (← first.toMember?, '-' :: after)
    else
      let (last, rest) ← member verbose (skipBlanks verbose false after)
      let low ← first.toChar?
      let high ← last.toChar?
      if low ≤ high then some (.range low high, rest) else none
  | rest => return (← first.toMember?, rest)

/-- The inside of a bracket up to its end. `operation` is the set operation whose left side is
read already; `fuel` bounds the number of members. -/
def bracketBody (verbose : Bool) :
    Nat → (Charset → Charset) → Charset → List Char → Option (Charset × List Char)
  | 0, _, _, _ => none
  | fuel + 1, operation, current, cs =>
    match skipBlanks verbose false cs with
    | [] => none
    | '[' :: rest =>
      match asciiClass rest with
      | some (item, rest) => bracketBody verbose fuel operation (current.add item) rest
      | none =>
        let (negated, start, rest) := bracketStart verbose rest
        (bracketBody verbose fuel id start rest).bind fun (body, rest) =>
          bracketBody verbose fuel operation (current.add (.bracket negated body)) rest
    | ']' :: rest => some (operation current, rest)
    | '&' :: '&' :: rest =>
      bracketBody verbose fuel (.intersection (operation current)) .empty rest
    | '-' :: '-' :: rest =>
      bracketBody verbose fuel (.difference (operation current)) .empty rest
    | '~' :: '~' :: rest =>
      bracketBody verbose fuel (.symmetricDifference (operation current)) .empty rest
    | rest =>
      (memberRange verbose rest).bind fun (item, rest) =>
        bracketBody verbose fuel operation (current.add item) rest

/-- A bracket after its opening. -/
def bracket (verbose : Bool) (cs : List Char) : Option (Tree × List Char) :=
  let (negated, start, rest) := bracketStart verbose cs
  (bracketBody verbose (rest.length + 1) id start rest).map fun (body, rest) =>
    (.set (.bracket negated body), rest)

/-! ### Repetitions -/

/-- A decimal count with blanks around it; there may be no digit at all. -/
def count (verbose : Bool) (cs : List Char) : List Char × List Char :=
  let (digits, rest) := takeSpaced verbose Char.isDigit false (cs.dropWhile isWhitespace)
  (digits, rest.dropWhile isWhitespace)

/-- The number of a count, unless it is missing or needs more than 32 bits. -/
def countValue? (ds : List Char) : Option Nat :=
  let n := ds.foldl (fun n c => 10 * n + (c.toNat - '0'.toNat)) 0
  if ds.isEmpty || decide (2 ^ (32 : Nat) ≤ n) then none else some n

/-- Whether a repetition is marked as one that prefers few rounds. -/
def lazyMark : List Char → Bool × List Char
  | '?' :: rest => (true, rest)
  | cs => (false, cs)

/-- The bounds of a repetition after the opening brace. -/
def bounds (verbose : Bool) (cs : List Char) : Option ((Nat × Option Nat) × List Char) :=
  match count verbose (skipBlanks verbose false cs) with
  | (ds, '\x7d' :: rest) => (countValue? ds).map fun n => ((n, some n), rest)
  | (ds, ',' :: rest) =>
    match skipBlanks verbose false rest with
    | '\x7d' :: rest => (countValue? ds).map fun n => ((n, none), rest)
    | rest =>
      match count verbose rest with
      | (es, '\x7d' :: rest) => do
        let n ← countValue? ds
        let m ← countValue? es
        if n ≤ m then some ((n, some m), rest) else none
      | _ => none
  | _ => none

/-! ### Groups -/

def Switch.ofLetter? : Char → Option Switch
  | 'i' => some ignoreCase
  | 'm' => some multiLine
  | 's' => some dotAll
  | 'U' => some swapGreed
  | 'u' => some unicode
  | 'R' => some carriageReturn
  | 'x' => some verbose
  | _ => none

/-- The switches of an inline group up to the character that ends them. Each letter and the minus
may stand once, and a letter has to follow the minus. -/
def switches (negated afterMinus : Bool) (seen : List Switch) :
    List Char → Option (List Change × Char × List Char)
  | [] => none
  | c :: rest =>
    if c = ':' ∨ c = ')' then if afterMinus then none else some ([], c, rest)
    else if c = '-' then if negated then none else switches true true seen rest
    else
      match Switch.ofLetter? c with
      | none => none
      | some s =>
        if seen.contains s then none
        else (switches negated false (s :: seen) rest).map fun (cs, stop, rest) =>
          ((s, !negated) :: cs, stop, rest)

/-- Whether the characters can name a group. -/
def isGroupName : List Char → Bool
  | [] => false
  | c :: rest =>
    (c == '_' || isAlphabetic c) && rest.all fun c =>
      c == '_' || c == '.' || c == '[' || c == ']' || isAlphanumeric c

/-! ### Words -/

inductive Lexeme where
  | atom (t : Tree)
  | opening (captures : Bool) (changes : List Change) (name : Option (List Char))
  | closing
  | bar
  | times (least : Nat) (most : Option Nat) (lazy : Bool)

/-- The name of a group up to its closing bracket. -/
def namedGroup (cs : List Char) : Option (Lexeme × List Char) :=
  match cs.dropWhile (· != '>') with
  | '>' :: rest =>
    let name := cs.takeWhile (· != '>')
    if isGroupName name then some (.opening true [] (some name), rest) else none
  | _ => none

/-- What a parenthesis opens: a group, or switches for the rest of the group around it. Groups that
look around do not exist. -/
def group (cs : List Char) : Option (Lexeme × List Char) :=
  match cs with
  | '?' :: '=' :: _ | '?' :: '!' :: _ | '?' :: '<' :: '=' :: _ | '?' :: '<' :: '!' :: _ => none
  | '?' :: 'P' :: '<' :: rest | '?' :: '<' :: rest => namedGroup rest
  | '?' :: rest =>
    match switches false false [] rest with
    | none => none
    | some (changes, stop, rest) =>
      if stop = ':' then some (.opening false changes none, rest)
      else if changes.isEmpty then none
      else some (.atom (.changes changes), rest)
  | _ => some (.opening true [] none, cs)

/-- A repetition whose mark follows. -/
def repetition (least : Nat) (most : Option Nat) (cs : List Char) : Lexeme × List Char :=
  let (lazy, rest) := lazyMark cs
  (.times least most lazy, rest)

/-- The next word of a pattern. -/
def lexeme (verbose : Bool) : List Char → Option (Lexeme × List Char)
  | [] => none
  | c :: rest =>
    match c with
    | '(' => group (skipBlanks verbose false rest)
    | ')' => some (.closing, rest)
    | '|' => some (.bar, rest)
    | '[' => (bracket verbose rest).map fun (t, rest) => (.atom t, rest)
    | '?' => some (repetition 0 (some 1) rest)
    | '*' => some (repetition 0 none rest)
    | '+' => some (repetition 1 none rest)
    | '\x7b' =>
      (bounds verbose rest).map fun ((least, most), rest) =>
        repetition least most (skipBlanks verbose false rest)
    | '\\' => (escape verbose rest).map fun (t, rest) => (.atom t, rest)
    | '.' => some (.atom .dot, rest)
    | '^' => some (.atom (.anchor .lineStart), rest)
    | '$' => some (.atom (.anchor .lineEnd), rest)
    | c => some (.atom (.literal c), rest)

/-- What reading a word depends on: whether the pattern is verbose here and was in the groups
around, and the names that groups have taken. -/
structure Scope where
  verbose : Bool
  outer : List Bool
  names : List (List Char)

namespace Scope

def start : Scope := ⟨false, [], []⟩

/-- Whether changes leave a pattern verbose. -/
def verboseAfter (verbose : Bool) (changes : List Change) : Bool :=
  ((changes.find? (·.1 == .verbose)).map (·.2)).getD verbose

/-- The scope behind a word; a group cannot take a name twice. -/
def advance (scope : Scope) : Lexeme → Option Scope
  | .atom (.changes cs) => some { scope with verbose := verboseAfter scope.verbose cs }
  | .opening _ cs name =>
    if name.any scope.names.contains then none
    else some ⟨verboseAfter scope.verbose cs, scope.verbose :: scope.outer,
      name.toList ++ scope.names⟩
  | .closing =>
    match scope.outer with
    | verbose :: outer => some { scope with verbose, outer }
    | [] => none
  | _ => some scope

end Scope

/-- The words of a pattern, at most `fuel` of them. -/
def lexemesFrom : Nat → Scope → List Char → Option (List Lexeme)
  | fuel, scope, cs =>
    match skipBlanks scope.verbose false cs, fuel with
    | [], _ => some []
    | _ :: _, 0 => none
    | c :: rest, fuel + 1 => do
      let (l, rest) ← lexeme scope.verbose (c :: rest)
      let scope ← scope.advance l
      return l :: (← lexemesFrom fuel scope rest)

/-- All words of a pattern. -/
def lexemes (cs : List Char) : Option (List Lexeme) := lexemesFrom cs.length .start cs

end TagSieve.Regex
