import TagSieve.Regex.Plan
import TagSieve.Regex.Draft.Set
import TagSieve.Regex.Draft.Words

/-!
The size of the automata for a pattern: one that reads the UTF-8 text forwards and one that reads
it backwards.
-/

namespace TagSieve.Regex

namespace Plan

/-- The fewest characters of a match, unless a set without characters leaves none. -/
def shortest : Plan → Option Nat
  | empty | look _ => some 0
  | word cs => some cs.length
  | words ws => (ws.map List.length).min?
  | set s => if s.isEmpty then none else some 1
  | capture p => shortest p
  | cat p q => do return (← shortest p) + (← shortest q)
  | alt p q => do return min (← shortest p) (← shortest q)
  | times least _ _ p => (shortest p).map (least * ·)

/-- Whether every match is empty. -/
def isZeroWidth : Plan → Bool
  | empty | look _ => true
  | word _ | words _ | set _ => false
  | capture p => isZeroWidth p
  | cat p q | alt p q => isZeroWidth p && isZeroWidth q
  | times _ _ _ p => isZeroWidth p

/-- Whether every match starts where the anchor holds. -/
def startsWith (a : Look) : Plan → Bool
  | look b => a == b
  | capture p => startsWith a p
  | cat p q => startsWith a p || (p.isZeroWidth && startsWith a q)
  | alt p q => startsWith a p && startsWith a q
  | times least _ _ p => decide (0 < least) && startsWith a p
  | _ => false

/-- Whether every match ends where the anchor holds. -/
def endsWith (a : Look) : Plan → Bool
  | look b => a == b
  | capture p => endsWith a p
  | cat p q => endsWith a q || (q.isZeroWidth && endsWith a p)
  | alt p q => endsWith a p && endsWith a q
  | times least _ _ p => decide (0 < least) && endsWith a p
  | _ => false

/-- Whether a match can only start at the end of the text from which it is read. -/
def isAnchored : Direction → Plan → Bool
  | .forwards, p => p.startsWith .textStart
  | .backwards, p => p.endsWith .textEnd

open Drafting in
/-- A repetition of a part whose matches may be empty or not. -/
def repetition (least : Nat) (most : Option Nat) (nonempty : Bool) (part : Drafting Unit) :
    Drafting Unit :=
  match least, most with
  | 0, none =>
    if nonempty then do
      split 2
      part
    else do
      part
      split 2
      split 2
      chain 1
  | least, none => do
    copies part least
    split 2
  | 0, some 1 => do
    split 2
    part
    chain 1
  | least, some most =>
    if least = most then copies part least
    else do
      if least = 0 then chain 1 else copies part least
      chain 1
      copies (do split 2; part) (most - least)

/-- The parts of the automaton for the alternatives of a plan. -/
def parts (d : Direction) : Plan → List (Drafting Unit)
  | empty | look _ => [.chain 1]
  | word cs => [.chain (d.bytes cs).length]
  | words ws => [.words (ws.map d.bytes)]
  | set s => [.set d s]
  | capture p =>
    let part := Drafting.choice (parts d p)
    match d with
    | .forwards => [do Drafting.chain 1; part; Drafting.chain 1]
    | .backwards => [part]
  | cat p q =>
    let first := Drafting.choice (parts d p)
    let second := Drafting.choice (parts d q)
    match d with
    | .forwards => [do first; second]
    | .backwards => [do second; first]
  | alt p q => .choice (parts d p) :: parts d q
  | times least most _ p =>
    [repetition least most ((shortest p).any (0 < ·)) (.choice (parts d p))]

open Drafting in
/-- The automaton of a plan. If it is not anchored, it first reads any bytes; at its end stands a
state that accepts. -/
def automaton (d : Direction) (p : Plan) : Drafting Unit := do
  if p.isAnchored d then
    chain 1
  else do
    split 2
    chain 1
    fork 1
  Drafting.choice (parts d (capture p))
  chain 1

/-- The size of the automaton of a plan. -/
def size (d : Direction) (p : Plan) : Nat := ((automaton d p).run (.empty d)).2.size

/-- Whether a plan is a choice between so many words that no automaton is needed. -/
def isDictionary : Plan → Bool
  | words ws => decide (3000 ≤ ws.length)
  | _ => false

end Plan

/-- Whether the automata of a pattern, in both directions, are small enough. -/
def Form.fits (f : Form) : Bool :=
  let p := f.plan
  p.isDictionary ||
    (decide (p.size .backwards ≤ sizeLimit) && decide (p.size .forwards ≤ sizeLimit))

end TagSieve.Regex
