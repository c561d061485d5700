import TagSieve.Regex.Form

/-!
The simplified shape of a pattern from which an automaton is built: neighbouring characters form
words, a choice between characters is a set, and what all alternatives start with stands before
their choice. Sequences and choices are chains that lean to the right.
-/

namespace TagSieve.Regex

open Unicode (Ranges)

inductive Plan where
  | empty
  | word (cs : List Char)
  /-- A choice between several words. -/
  | words (ws : List (List Char))
  | look (a : Look)
  | set (s : Ranges)
  | capture (p : Plan)
  | cat (p q : Plan)
  | alt (p q : Plan)
  | times (least : Nat) (most : Option Nat) (lazy : Bool) (p : Plan)
deriving DecidableEq

namespace Plan

/-- An item before a sequence; words that meet become one. -/
def before : Plan → Plan → Plan
  | empty, q => q
  | p, empty => p
  | word a, word b => word (a ++ b)
  | word a, cat (word b) q => cat (word (a ++ b)) q
  | p, q => cat p q

/-- A sequence behind another one. -/
def append : Plan → Plan → Plan
  | cat p q, r => before p (append q r)
  | p, r => before p r

/-- The items of a sequence. -/
def items : Plan → List Plan
  | cat p q => p :: items q
  | p => [p]

def ofItems (ps : List Plan) : Plan := ps.foldr before empty

/-- A set, or the one character in it. -/
def ofSet (s : Ranges) : Plan :=
  match s with
  | [(a, b)] => if a = b then word [Char.ofNat a] else set s
  | _ => set s

/-- The alternatives of a choice. -/
def options : Plan → List Plan
  | words ws => ws.map word
  | alt p q => p :: options q
  | p => [p]

def ofOptions : List Plan → Plan
  | [] => set []
  | [p] => p
  | p :: ps => alt p (ofOptions ps)

/-- The character of a word of one character, as a range. -/
def singleton? : Plan → Option (Nat × Nat)
  | word [c] => some (c.toNat, c.toNat)
  | _ => none

def set? : Plan → Option Ranges
  | set s => some s
  | _ => none

def word? : Plan → Option (List Char)
  | word cs => some cs
  | _ => none

/-- The choice between alternatives; if all are characters or all are sets, it is a set. -/
def gather (ps : List Plan) : Plan :=
  match ps, ps.mapM singleton?, ps.mapM set?, ps.mapM word? with
  | [p], _, _, _ => p
  | _, some cs, _, _ => ofSet (Ranges.ofPairs cs)
  | _, _, some ss, _ => ofSet (Ranges.unionAll ss)
  | _, _, _, some ws => words ws
  | _, _, _, _ => ofOptions ps

/-- Whether some part of the text that a match reads is captured. -/
def captures : Plan → Bool
  | capture _ => true
  | cat p q | alt p q => captures p || captures q
  | times _ _ _ p => captures p
  | _ => false

def isCat : Plan → Bool
  | cat _ _ => true
  | _ => false

/-- The items that both lists start with, up to the first one that captures: no two captures are
the same. -/
def commonFront : List Plan → List Plan → List Plan
  | p :: ps, q :: qs => if p = q ∧ p.captures = false then p :: commonFront ps qs else []
  | _, _ => []

/-- The items with which each of several sequences starts. -/
def sharedFront (ps : List Plan) : List Plan :=
  match ps with
  | p :: q :: rest =>
    if ps.all isCat then (q :: rest).foldl (fun front r => commonFront front r.items) p.items
    else []
  | _ => []

/-- The choice between alternatives, with what they share at the front drawn before it. -/
def choice (ps : List Plan) : Plan :=
  let ps := ps.flatMap options
  match sharedFront ps with
  | [] => gather ps
  | front =>
    front.foldr before <|
      gather ((ps.map fun p => ofItems (p.items.drop front.length)).flatMap options)

def repeated (least : Nat) (most : Option Nat) (lazy : Bool) (p : Plan) : Plan :=
  if most = some 0 then empty
  else if least = 1 ∧ most = some 1 then p
  else times least most lazy p

end Plan

namespace Form

/-- The plans of the alternatives of a form. -/
def alternatives : Form → List Plan
  | empty => [.empty]
  | look a => [.look a]
  | set s => [.ofSet s]
  | group false body => [.choice (alternatives body)]
  | group true body => [.capture (.choice (alternatives body))]
  | cat a b => [.append (.choice (alternatives a)) (.choice (alternatives b))]
  | alt a b => .choice (alternatives a) :: alternatives b
  | times least most lazy body => [.repeated least most lazy (.choice (alternatives body))]

def plan (f : Form) : Plan := .choice f.alternatives

end Form

end TagSieve.Regex
