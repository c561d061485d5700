import TagSieve.Regex.Parser
import TagSieve.Regex.Size

/-!
From the text of a pattern to its form. Patterns are refused that are malformed, that reach beyond
whole characters, or whose automata are too large.
-/

namespace TagSieve.Regex

/-- The form of a pattern, unless it is refused. -/
def compile? (m : Modes) (cs : List Char) : Option Form := do
  let t ← parse? cs
  let form := (t.toForm m).1
  if (t.allowed m).1 && form.fits then some form else none

end TagSieve.Regex
