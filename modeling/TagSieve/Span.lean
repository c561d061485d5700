/-!
Spans of a filter's source. Offsets count characters, so that a span can be underlined whatever
the user typed.
-/

namespace TagSieve

/-- The characters from `start` up to but not including `stop`. -/
structure Span where
  start : Nat
  stop : Nat
deriving DecidableEq, Inhabited

namespace Span
variable {a b : Span}

def length (s : Span) : Nat := s.stop - s.start

def isEmpty (s : Span) : Bool := s.start == s.stop

/-- The smallest span that covers both. -/
def merge (a b : Span) : Span := ⟨min a.start b.start, max a.stop b.stop⟩

/-- The span seen from a text in which `n` more characters come first. -/
def shift (n : Nat) (s : Span) : Span := ⟨n + s.start, n + s.stop⟩

/-- The stretch of text under the span. -/
def slice (s : Span) (cs : List Char) : List Char := (cs.take s.stop).drop s.start

theorem merge_of_le (hstart : a.start ≤ b.start) (hstop : a.stop ≤ b.stop) :
    a.merge b = ⟨a.start, b.stop⟩ := by
  simp [merge, Nat.min_eq_left hstart, Nat.max_eq_right hstop]

theorem shift_merge (n : Nat) (a b : Span) : (a.merge b).shift n = (a.shift n).merge (b.shift n) := by
  simp [shift, merge, Nat.add_min_add_left, Nat.add_max_add_left]

protected def toString (s : Span) : String := toString s.start ++ ".." ++ toString s.stop

instance : ToString Span := ⟨Span.toString⟩

/-- A source on one line: line feeds and tabs show as spaces. -/
def flatten (cs : List Char) : List Char :=
  cs.map fun c => if c = '\n' ∨ c = '\t' then ' ' else c

/-- The line that points at the span in a text of `size` characters: a caret under its first
character and tildes under the others. An empty span still has its caret, and nothing lies
beyond the column after the last character. -/
def marker (s : Span) (size : Nat) : List Char :=
  let start := min s.start size
  let stop := max start (min s.stop size)
  List.replicate start ' ' ++ '^' :: List.replicate (stop - start - 1) '~'

/-- The source with the span underlined on the line below. -/
def underline (s : Span) (source : String) : String :=
  String.ofList (flatten source.toList) ++ "\n" ++
    String.ofList (s.marker source.toList.length)

end Span

end TagSieve
