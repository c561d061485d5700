import TagSieve.Regex.Draft

/-!
The states of a choice between words, spelled by a tree. Words that start alike share their steps,
unless one of them has ended in between: what ends goes before what follows.
-/

namespace TagSieve.Regex

namespace Direction

/-- The bytes of a word in the order in which they are read. -/
def bytes (d : Direction) (cs : List Char) : List UInt8 :=
  let bs := cs.flatMap String.utf8EncodeChar
  match d with
  | .forwards => bs
  | .backwards => bs.reverse

end Direction

namespace Drafting

/-- The words between those that end here. -/
def segments : List (List UInt8) → List (List (List UInt8))
  | [] => [[]]
  | [] :: rest => [] :: segments rest
  | w :: rest =>
    match segments rest with
    | [] => [[w]]
    | seg :: segs => (w :: seg) :: segs

/-- Several words that end before any other goes on end only once. -/
def endOnce : List (List UInt8) → List (List UInt8)
  | [] :: rest => [] :: rest.dropWhile List.isEmpty
  | ws => ws

/-- Files the rest of a word under its first byte. -/
def file (b : UInt8) (w : List UInt8) :
    List (UInt8 × List (List UInt8)) → List (UInt8 × List (List UInt8))
  | [] => [(b, [w])]
  | (c, ws) :: rest => if b = c then (c, w :: ws) :: rest else (c, ws) :: file b w rest

/-- The rests of words under their first bytes. -/
def filed (ws : List (List UInt8)) : List (UInt8 × List (List UInt8)) :=
  ws.foldr (fun w drawers =>
    match w with
    | [] => drawers
    | b :: w => file b w drawers) []

/-- The states of a tree that spells words of at most so many bytes. -/
def tree : Nat → List (List UInt8) → Drafting Unit
  | 0, _ => pure ()
  | n + 1, ws => do
    if !ws.all List.isEmpty then
      let segs := segments (endOnce ws)
      let drawers := (segs.map filed).filter (!·.isEmpty)
      split (drawers.length + (segs.length - 1))
      drawers.forM fun rests => do
        if rests.length = 1 then chain 1 else fork rests.length
        rests.forM fun (_, ws) => tree n ws

/-- The states of a choice between words. -/
def words (ws : List (List UInt8)) : Drafting Unit := do
  chain 1
  tree ((ws.map List.length).foldl max 0) ws

end Drafting

end TagSieve.Regex
