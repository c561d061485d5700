import TagSieve.Regex.Compile
import TagSieve.Regex.Node

/-!
Regular expression literals. Without the flag `m` the whole value is one line: a dot matches line
feeds, and `^` and `$` hold at the two ends only. With it a dot stops at line feeds, and `^` and
`$` hold at the ends of every line.
-/

namespace TagSieve

/-- The settings of a pattern with these flags. -/
def Regex.Modes.ofFlags (ignoreCase multiline : Bool) : Regex.Modes :=
  ⟨ignoreCase, multiline, !multiline, true, false, false⟩

/-- A pattern that compiles, with its form. -/
structure Pattern where
  source : String
  ignoreCase : Bool
  multiline : Bool
  form : Regex.Form
  compiled : Regex.compile? (.ofFlags ignoreCase multiline) source.toList = some form

namespace Pattern

/-- The pattern of a source and its flags, if it compiles. -/
def ofSource? (source : String) (ignoreCase multiline : Bool) : Option Pattern :=
  match h : Regex.compile? (.ofFlags ignoreCase multiline) source.toList with
  | some form => some ⟨source, ignoreCase, multiline, form, h⟩
  | none => none

/-- Two patterns are the same if their sources and flags are. -/
theorem eq_of_fields {p q : Pattern} (hs : p.source = q.source)
    (hi : p.ignoreCase = q.ignoreCase) (hm : p.multiline = q.multiline) : p = q := by
  obtain ⟨s, i, m, form, h⟩ := p
  obtain ⟨s', i', m', form', h'⟩ := q
  subst hs hi hm
  obtain rfl : form = form' := Option.some.inj (h.symm.trans h')
  rfl

instance : DecidableEq Pattern := fun p q =>
  if h : p.source = q.source ∧ p.ignoreCase = q.ignoreCase ∧ p.multiline = q.multiline then
    isTrue (eq_of_fields h.1 h.2.1 h.2.2)
  else isFalse fun e => h (by simp [e])

/-- Whether some stretch of the text matches. -/
def isMatch (p : Pattern) (text : String) : Bool := p.form.search text.toList

end Pattern

end TagSieve
