import TagSieve.Token.Reader

/-!
Reading the tokens of a filter one at a time, on demand.
-/

namespace TagSieve

/-- What is left to read and how many characters came before it. -/
structure Lexer where
  rest : List Char
  position : Nat
  started : Bool

namespace Lexer

/-- A lexer at the front of a text. -/
def ofChars (cs : List Char) : Lexer := ⟨cs, 0, false⟩

def ofString (source : String) : Lexer := ofChars source.toList

/-- Reads the next token after blanks. The first token is always the start; the end repeats for
ever. -/
def next (l : Lexer) : Except LexError Token × Lexer :=
  if l.started then
    let position := l.position + (l.rest.takeWhile Unicode.isWhitespace).length
    let reading := readToken (l.rest.dropWhile Unicode.isWhitespace)
    let after : Lexer := ⟨reading.rest, position + reading.size, true⟩
    match reading.outcome with
    | .ok s => (.ok ⟨s, ⟨position, after.position⟩⟩, after)
    | .error e => (.error (e.shift position), after)
  else (.ok ⟨.start, ⟨0, 0⟩⟩, { l with started := true })

/-- The answers of so many calls. -/
def calls : Nat → Lexer → List (Except LexError Token)
  | 0, _ => []
  | n + 1, l => l.next.1 :: calls n l.next.2

/-- The lexer after so many calls. -/
def skip : Nat → Lexer → Lexer
  | 0, l => l
  | n + 1, l => skip n l.next.2

end Lexer

/-- The tokens that a lexer gives until the end of the filter or an error. -/
inductive TokenStream where
  | finish (span : Span)
  | error (e : LexError)
  | token (t : Token) (rest : TokenStream)

namespace TokenStream

/-- The tokens of a lexer. Every token but the first takes at least one character, so that two more
calls than characters reach the end. -/
def ofCalls : Nat → Lexer → TokenStream
  | 0, l => .finish ⟨l.position, l.position⟩
  | n + 1, l =>
    match l.next with
    | (.error e, _) => .error e
    | (.ok t, after) => if t.symbol = .finish then .finish t.span else .token t (ofCalls n after)

def ofLexer (l : Lexer) : TokenStream := ofCalls (l.rest.length + 2) l

/-- All answers in order. -/
def answers : TokenStream → List (Except LexError Token)
  | finish span => [.ok ⟨.finish, span⟩]
  | error e => [.error e]
  | token t rest => .ok t :: answers rest

end TokenStream

end TagSieve
