import TagSieve.Expr.Error
import TagSieve.Token.Lexer

/-!
The tree of a filter, built token by token.

    Filter     ::= Start Or End
    Or         ::= And ( '||' And )*
    And        ::= Simple ( '&&' Simple )*
    Simple     ::= '!' '(' Or ')' | '(' Or ')' | Value Operator Value

The state between two tokens says what may come next and what is still open. A token that cannot
come next is refused at once, so no token after the first wrong one is ever read.
-/

namespace TagSieve

/-- The left sides that wait for a right one on one level of parentheses. -/
structure Pending where
  disjunct : Option Expr
  conjunct : Option Expr

namespace Pending

def none : Pending := ⟨.none, .none⟩

/-- A condition together with the `&&` before it. -/
def conjoin (p : Pending) (e : Expr) : Expr :=
  match p.conjunct with
  | some left => Expr.join .and left e
  | .none => e

/-- A condition together with everything before it on its level. -/
def close (p : Pending) (e : Expr) : Expr :=
  match p.disjunct with
  | some left => Expr.join .or left (p.conjoin e)
  | .none => p.conjoin e

/-- What waits after a condition and a connective. -/
def push (p : Pending) (e : Expr) : Connective → Pending
  | .and => ⟨p.disjunct, some (p.conjoin e)⟩
  | .or => ⟨some (p.close e), .none⟩

end Pending

/-- An open group, with the `!` before it and what waits around it. -/
structure Group where
  negation : Option Span
  paren : Span
  around : Pending

/-- The condition of a group that closes at `paren`. The condition inside spans its parentheses. -/
def Group.close (g : Group) (paren : Span) (e : Expr) : Expr :=
  let inner := e.withSpan (g.paren.merge paren)
  match g.negation with
  | some n => .not (n.merge inner.span) inner
  | none => inner

/-- What may come next. -/
inductive Next where
  | start
  | condition
  /-- A group, after `!`. -/
  | group (negation : Span)
  | operator (left : Operand)
  | right (left : Operand) (op : Operator)
  /-- The continuation of a comparison that is still to be checked. -/
  | checked (left : Operand) (op : Operator) (right : Operand)
  /-- The continuation of a condition. -/
  | continuation (e : Expr)

structure ParseState where
  next : Next
  level : Pending
  groups : List Group

/-- The rule that a comparison breaks, if it breaks one. -/
def misuse? (op : Operator) (left right : Value) : Option Misuse :=
  if op.isMatch && left.isRegex == right.isRegex then some .regexOperands
  else if !op.isMatch && (left.isRegex || right.isRegex) then some .regexWithoutMatch
  else if !left.isDynamic && !right.isDynamic then some .constantComparison
  else if (left.isUndef && (op.isMatch || !right.isTag)) ||
      (right.isUndef && (op.isMatch || !left.isTag)) then some .misplacedUndef
  else none

/-- A comparison, unless it breaks a rule. -/
def checkComparison (left : Operand) (op : Operator) (right : Operand) :
    Except ParseError Expr :=
  let span := left.span.merge right.span
  match misuse? op left.value right.value with
  | some m => .error (.misuse m op left.value right.value span)
  | none => .ok (.comparison span op left right)

namespace ParseState

def start : ParseState := ⟨.start, .none, []⟩

/-- Checks a comparison that has just been read. -/
def settle (s : ParseState) : Except ParseError ParseState :=
  match s.next with
  | .checked left op right =>
    (checkComparison left op right).map fun e => { s with next := .continuation e }
  | _ => .ok s

def expect (next : Next) (s : ParseState) : Except ParseError ParseState :=
  .ok { s with next := next }

def openGroup (negation : Option Span) (paren : Span) (s : ParseState) :
    Except ParseError ParseState :=
  .ok ⟨.condition, .none, ⟨negation, paren, s.level⟩ :: s.groups⟩

/-- The error for a symbol that cannot continue a condition. -/
def refuse (s : ParseState) (found : Symbol) (span : Span) : ParseError :=
  match s.groups with
  | [] => .unexpected .continuation found span
  | g :: _ => .unclosedGroup found (g.paren.merge span)

/-- Continues after a condition. -/
def proceed (s : ParseState) (e : Expr) (t : Token) : Except ParseError ParseState :=
  match t.symbol, s.groups with
  | .connective c, _ => .ok ⟨.condition, s.level.push e c, s.groups⟩
  | .closeParen, g :: groups =>
    .ok ⟨.continuation (g.close t.span (s.level.close e)), g.around, groups⟩
  | found, _ => .error (s.refuse found t.span)

/-- Takes in one token that is not the end. -/
def step (s : ParseState) (t : Token) : Except ParseError ParseState :=
  s.settle.bind fun s =>
    match s.next, t.symbol with
    | .start, .start => s.expect .condition
    | .start, found => .error (.unexpected .start found t.span)
    | .condition, .value v => s.expect (.operator ⟨v, t.span⟩)
    | .condition, .not => s.expect (.group t.span)
    | .condition, .openParen => s.openGroup none t.span
    | .condition, found => .error (.unexpected .condition found t.span)
    | .group n, .openParen => s.openGroup (some n) t.span
    | .group n, found => .error (.notWithoutGroup found (n.merge t.span))
    | .operator left, .operator op => s.expect (.right left op)
    | .operator _, found => .error (.unexpected .operator found t.span)
    | .right left op, .value v => s.expect (.checked left op ⟨v, t.span⟩)
    | .right _ _, found => .error (.unexpected .value found t.span)
    | .checked _ _ _, found => .error (s.refuse found t.span)
    | .continuation e, _ => s.proceed e t

/-- The tree at the end of the filter. -/
def finish (s : ParseState) (span : Span) : Except ParseError Expr :=
  s.settle.bind fun s =>
    match s.next, s.groups with
    | .continuation e, [] => .ok (s.level.close e)
    | _, _ => (s.step ⟨.finish, span⟩).bind fun s => .error (s.refuse .finish span)

end ParseState

/-- The outcome of parsing and the tokens that were read for it. -/
structure Parsing where
  outcome : Except ParseError Expr
  read : List Token

/-- Parses the tokens of a stream from a state on, reading no further than it must. -/
def ParseState.run (s : ParseState) : TokenStream → Parsing
  | .finish span => ⟨s.finish span, [⟨.finish, span⟩]⟩
  | .error e => ⟨.error (.lex e), []⟩
  | .token t rest =>
    match s.step t with
    | .error e => ⟨.error e, [t]⟩
    | .ok s =>
      let p := s.run rest
      ⟨p.outcome, t :: p.read⟩

/-- Parses what a lexer has left. -/
def Lexer.parse (l : Lexer) : Parsing := ParseState.start.run (TokenStream.ofLexer l)

/-- Parses the source of a filter. -/
def Parsing.ofSource (source : String) : Parsing := (Lexer.ofString source).parse

end TagSieve
