import TagSieve.Expr
import TagSieve.Text.Quoted
import TagSieve.Token

/-!
Filters and tokens as reports show them: every part under its name, on one line or with one part a
line.
-/

namespace TagSieve

mutual

/-- A value with its structure. -/
inductive Shown where
  | atom (text : List Char)
  /-- A name with one part in parentheses. -/
  | wrapped (name : List Char) (inner : Shown)
  /-- A name with named parts in braces. -/
  | fields (name : List Char) (parts : ShownFields)

inductive ShownFields where
  | nil
  | cons (name : List Char) (value : Shown) (rest : ShownFields)

end

namespace Shown

mutual

/-- On one line. -/
def compact : Shown → List Char
  | atom text => text
  | wrapped name inner => name ++ '(' :: (compact inner ++ [')'])
  | fields name parts => name ++ [' ', '\x7b', ' '] ++ compactFields parts ++ [' ', '\x7d']

def compactFields : ShownFields → List Char
  | .nil => []
  | .cons name value .nil => name ++ [':', ' '] ++ compact value
  | .cons name value rest => name ++ [':', ' '] ++ compact value ++ [',', ' '] ++ compactFields rest

end

/-- The start of a line at some depth. -/
def newline (depth : Nat) : List Char := '\n' :: List.replicate (4 * depth) ' '

mutual

/-- With one part a line, four columns deeper than what it is a part of, before some text. -/
def spread (depth : Nat) : Shown → List Char → List Char
  | atom text, tail => text ++ tail
  | wrapped name inner, tail =>
    name ++ '(' :: (newline (depth + 1) ++
      spread (depth + 1) inner (',' :: (newline depth ++ ')' :: tail)))
  | fields name parts, tail =>
    name ++ ' ' :: '\x7b' :: spreadFields (depth + 1) parts (newline depth ++ '\x7d' :: tail)

def spreadFields (depth : Nat) : ShownFields → List Char → List Char
  | .nil, tail => tail
  | .cons name value rest, tail =>
    newline depth ++ name ++ ':' :: ' ' :: spread depth value (',' :: spreadFields depth rest tail)

end

def ofString (s : String) : Shown := atom (Quoted.showText s)

def ofNat (n : Nat) : Shown := atom (Nat.toDigits 10 n)

def ofBool (b : Bool) : Shown := atom (if b then "true".toList else "false".toList)

/-- A name without parts. -/
def named (s : String) : Shown := atom s.toList

def wrap (name : String) (inner : Shown) : Shown := wrapped name.toList inner

def ofFields (name : String) (parts : List (String × Shown)) : Shown :=
  fields name.toList (parts.foldr (fun p rest => .cons p.1.toList p.2 rest) .nil)

end Shown

def Span.shown (s : Span) : Shown :=
  .ofFields "Span" [("start", .ofNat s.start), ("end", .ofNat s.stop)]

def Selector.shown : Selector → Shown
  | unset => .named "Unset"
  | nth n => .wrap "Nth" (.ofNat n.toNat)
  | join => .named "Join"
  | all => .named "All"
  | any => .named "Any"

def TagKey.shown (k : TagKey) : Shown :=
  .ofFields "TagKey" [("name", .ofString k.name), ("index", k.selector.shown)]

def Pattern.shown (p : Pattern) : Shown :=
  .ofFields "Pattern"
    [("regex", .wrap "Regex" (.ofString p.source)), ("source", .ofString p.source),
     ("case_insensitive", .ofBool p.ignoreCase), ("multiline", .ofBool p.multiline)]

def Value.shown : Value → Shown
  | integer n => .wrap "Integer" (.atom (integerChars n))
  | float x => .wrap "Float" (.atom (x.text Binary64.reportLayout))
  | string s => .wrap "String" (.ofString s)
  | regex p => .wrap "Regex" p.shown
  | tag key => .wrap "TagKey" key.shown
  | filename => .named "Filename"
  | backend => .named "Backend"
  | undef => .named "Undef"

def Operator.reportName : Operator → String
  | equal => "Equal"
  | notEqual => "NotEqual"
  | less => "LessThan"
  | lessEqual => "LessEqual"
  | greater => "GreaterThan"
  | greaterEqual => "GreaterEqual"
  | matching => "Match"
  | notMatching => "NotMatch"

def Connective.reportName : Connective → String
  | and => "And"
  | or => "Or"

def Operand.shown (o : Operand) : Shown :=
  .ofFields "Operand" [("value", o.value.shown), ("span", o.span.shown)]

namespace Expr

/-- A node with its kind and its span. -/
def shownNode (kind : Shown) (span : Span) : Shown :=
  .ofFields "Expr" [("kind", kind), ("span", span.shown)]

def shown : Expr → Shown
  | not s e => shownNode (.wrap "Not" (shown e)) s
  | logical s op l r =>
    shownNode (.ofFields "Logical"
      [("op", .named op.reportName), ("left", shown l), ("right", shown r)]) s
  | comparison s op l r =>
    shownNode (.ofFields "Comparison"
      [("op", .named op.reportName), ("left", l.shown), ("right", r.shown)]) s

/-- The canonical text of a filter above its tree. -/
def report (e : Expr) : String := e.text ++ "\n" ++ String.ofList (e.shown.spread 0 [])

end Expr

namespace Symbol

/-- The short name of an operator among the tokens. -/
def operatorName : Operator → String
  | .equal => "Eq"
  | .notEqual => "Ne"
  | .less => "Lt"
  | .lessEqual => "Le"
  | .greater => "Gt"
  | .greaterEqual => "Ge"
  | .matching => "Match"
  | .notMatching => "NotMatch"

def shown : Symbol → Shown
  | start => .named "Start"
  | finish => .named "End"
  | not => .named "Not"
  | connective c => .named c.reportName
  | operator op => .named (operatorName op)
  | openParen => .named "OpenParen"
  | closeParen => .named "CloseParen"
  | value v => v.shown

end Symbol

end TagSieve
