import TagSieve.Regex.Draft
import TagSieve.Unicode.Utf8

/-!
The states of a set of characters. Within ASCII one state steps over all ranges. Beyond it, states
before the same rest are shared when the automaton reads forwards, and states behind the same front
when it reads backwards; only as many are remembered as the draft has places for.
-/

namespace TagSieve.Regex.Drafting

open Unicode

/-- The state before so many further bytes and the last state. -/
def before (last : Nat) : Nat → Ranges → Drafting Nat
  | 0, _ => pure last
  | n + 1, r => do
    let steps ← (Utf8.further n r).mapM fun s => return [s.low, s.high, ← before last n s.rest]
    share steps.flatten (8 * steps.length)

/-- The states of a set, its sequences read from the front. -/
def setForwards (s : Ranges) : Drafting Unit := do
  let last ← state 0
  let steps ← (Utf8.roots s).mapM fun (n, s) => return [s.low, s.high, ← before last n s.rest]
  discard (share steps.flatten (8 * steps.length))

/-- The states of sequences that are read from the end. -/
def sequencesBackwards (seqs : List (List (Nat × Nat))) : Drafting Unit := do
  split seqs.length
  let last ← state 0
  seqs.forM fun seq =>
    discard (seq.foldlM (fun next (low, high) => share [next, low, high] 0) last)

/-- The states of a set. -/
def set (d : Direction) (s : Ranges) : Drafting Unit :=
  if s.all fun r => decide (r.2 < 128) then do
    chain 1
    fork s.length
  else
    match d with
    | .forwards => setForwards s
    | .backwards => sequencesBackwards (Utf8.sequences s)

end TagSieve.Regex.Drafting
