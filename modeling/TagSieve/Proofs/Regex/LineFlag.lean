import TagSieve.Proofs.Regex.Enclosed

/-! The line flag. Between anchors a plain pattern matches with the flag the texts that have a line
which it matches without. This holds of every engine that gives its switches their documented
meaning, and the search by marks is one. -/
namespace TagSieve

variable {p source : String} {ignoreCase multiline : Bool}

namespace Regex

variable {t : Tree} {m : Modes} {cs : List Char} {f : Form}

theorem exists_of_compile? (h : compile? m cs = some f) :
    ∃ t, parse? cs = some t ∧ f = (t.toForm m).1 := by
  obtain ⟨t, ht, h⟩ := Option.bind_eq_some_iff.mp h
  dsimp only at h
  split at h
  · cases h
    exact ⟨t, ht, rfl⟩
  · cases h

theorem compile?_of_parse? (ht : parse? cs = some t) (hallowed : (t.allowed m).1 = true)
    (hfits : (t.toForm m).1.fits = true) : compile? m cs = some (t.toForm m).1 := by
  unfold compile?
  simp only [ht, Option.bind_eq_bind, Option.bind_some, hallowed, hfits, Bool.and_self, if_true]

/-- The pattern as a group between anchors. -/
def anchored (p : String) : String := "^(?:" ++ p ++ ")$"

theorem toList_anchored (p : String) :
    (anchored p).toList = ['^', '(', '?', ':'] ++ p.toList ++ [')', '$'] := by
  simp [anchored]

/-- The form of a tree as a group between anchors. -/
def Tree.anchoredForm (m : Modes) (t : Tree) : Form :=
  .cat (.look (m.look .lineStart)) (.cat (.group false (t.toForm m).1) (.look (m.look .lineEnd)))

/-- The form of a plain pattern as a group between anchors. -/
theorem form_of_anchored (hp : parse? p.toList = some t) (ht : t.IsPlain)
    (h : compile? m (anchored p).toList = some f) : f = t.anchoredForm m := by
  obtain ⟨u, hu, rfl⟩ := exists_of_compile? h
  rw [toList_anchored] at hu
  rw [parse?_anchored hp ht hu]
  rfl

/-- What looks for a source in texts, if it compiles, under the switches for letter case, for
anchors at line ends and for dots that match line feeds. -/
abbrev Engine :=
  (source : String) → (ignoreCase multiLine dotAll : Bool) → Option ((text : String) → Bool)

/-- The settings that the three switches of an engine change. -/
def Modes.ofSwitches (ignoreCase multiLine dotAll : Bool) : Modes :=
  ⟨ignoreCase, multiLine, dotAll, true, false, false⟩

namespace Engine

variable {engine : Engine} {byLine whole : String → Bool}

/-- An engine that gives its switches their documented meaning: a plain pattern between anchors is
found in a text if the pattern matches some stretch of it, where letters are taken in either case, the
anchors hold at line ends and dots match line feeds just as the switches say. -/
def IsDocumented (engine : Engine) : Prop :=
  ∀ (p : String) (t : Tree) (ignoreCase multiLine dotAll : Bool) (finds : String → Bool),
    parse? p.toList = some t → t.IsPlain →
    engine (anchored p) ignoreCase multiLine dotAll = some finds →
    ∀ text, finds text = true ↔ ∃ i j, i ≤ text.toList.length ∧
      (t.anchoredForm (.ofSwitches ignoreCase multiLine dotAll)).Matches text.toList i j

/-- What the flags of a pattern ask of an engine: with the line flag the anchors hold at line ends
and dots spare line feeds. -/
def flagged (engine : Engine) (source : String) (ignoreCase multiline : Bool) :
    Option (String → Bool) :=
  engine source ignoreCase multiline (!multiline)

/-- With the line flag, a plain pattern between anchors is found in a text if it is found without in
one of the lines. -/
theorem IsDocumented.lines_iff (h : engine.IsDocumented) (hp : parse? p.toList = some t)
    (ht : t.IsPlain) (hbyLine : engine.flagged (anchored p) ignoreCase true = some byLine)
    (hwhole : engine.flagged (anchored p) ignoreCase false = some whole) (text : String) :
    byLine text = true ↔
      ∃ line ∈ text.toList.splitOn '\n', whole (String.ofList line) = true := by
  have hspares := (Tree.sparesFeed_toForm ht ignoreCase).group false
  rw [h p t _ _ _ byLine hp ht hbyLine, ← Form.search_iff]
  refine (hspares.search_lineAnchors text.toList).trans ?_
  refine exists_congr fun line => and_congr_right fun _ => ?_
  rw [h p t _ _ _ whole hp ht hwhole, String.toList_ofList, ← Form.search_iff]
  exact (Form.search_textAnchors _ line).symm

/-- The search by marks as an engine. -/
def ofSearch : Engine := fun source ignoreCase multiLine dotAll =>
  (compile? (.ofSwitches ignoreCase multiLine dotAll) source.toList).map fun f text =>
    f.search text.toList

theorem isDocumented_ofSearch : ofSearch.IsDocumented := by
  intro p t ignoreCase multiLine dotAll finds hp ht h text
  obtain ⟨f, hf, rfl⟩ := Option.map_eq_some_iff.mp h
  rw [form_of_anchored hp ht hf, Form.search_iff]

end Engine

end Regex

namespace Pattern

open Regex (Engine Modes Tree Form anchored)

variable {t : Tree} {q : Pattern} {f : Form}

/-- A pattern finds what the search by marks finds under its flags. -/
theorem flagged_ofSearch (h : ofSource? source ignoreCase multiline = some q) :
    Engine.ofSearch.flagged source ignoreCase multiline = some q.isMatch := by
  have hform : Regex.compile? (.ofFlags ignoreCase multiline) source.toList = some q.form := by
    unfold ofSource? at h
    split at h
    · next f heq =>
      cases h
      exact heq
    · cases h
  exact congrArg (Option.map _) hform

theorem ofSource?_eq_some
    (h : Regex.compile? (.ofFlags ignoreCase multiline) source.toList = some f) :
    ofSource? source ignoreCase multiline = some ⟨source, ignoreCase, multiline, f, h⟩ := by
  unfold ofSource?
  split
  · next g heq =>
    obtain rfl : f = g := Option.some.inj (h.symm.trans heq)
    rfl
  · next heq => cases h.symm.trans heq

/-- With the line flag, a plain pattern between anchors matches a text if one of the lines matches
without. -/
theorem isMatch_lines_iff (hp : Regex.parse? p.toList = some t) (ht : t.IsPlain)
    {byLine whole : Pattern} (hbyLine : ofSource? (anchored p) ignoreCase true = some byLine)
    (hwhole : ofSource? (anchored p) ignoreCase false = some whole) (text : String) :
    byLine.isMatch text = true ↔
      ∃ line ∈ text.toList.splitOn '\n', whole.isMatch (String.ofList line) = true :=
  Engine.isDocumented_ofSearch.lines_iff hp ht (flagged_ofSearch hbyLine) (flagged_ofSearch hwhole)
    text

/-- A choice with a dot, in a group. -/
def pairSource : String := "(?:a.|c*)"

def pairTree : Tree :=
  .group false [] (.alt (.cat (.literal 'a') .dot) (.times 0 none false (.literal 'c')))

theorem isPlain_pairTree : pairTree.IsPlain := by simp [pairTree, Tree.IsPlain]

/-- The form of the pair between anchors. -/
def pairForm (multiline : Bool) : Form :=
  let (start, stop, dots) :=
    if multiline then (.lineStart, .lineEnd, [(0, 0x9), (0xB, 0xD7FF), (0xE000, 0x10FFFF)])
    else (.textStart, .textEnd, [(0, 0xD7FF), (0xE000, 0x10FFFF)])
  .cat (.look start) (.cat (.group false (.group false (.alt
    (.cat (.set [(97, 97)]) (.set dots)) (.times 0 none false (.set [(99, 99)]))))) (.look stop))

theorem compile?_pair (multiline : Bool) :
    Regex.compile? (.ofFlags false multiline) (anchored pairSource).toList =
      some (pairForm multiline) := by
  have hparse : Regex.parse? (anchored pairSource).toList = some (.cat (.anchor .lineStart)
      (.cat (.group false [] pairTree) (.anchor .lineEnd))) := by decide +kernel
  have hform : (Tree.toForm (.ofFlags false multiline) (.cat (.anchor .lineStart)
      (.cat (.group false [] pairTree) (.anchor .lineEnd)))).1 = pairForm multiline := by
    cases multiline with
    | false =>
      rw [pairForm, ← Modes.dotSet_whole false]
      rfl
    | true =>
      rw [pairForm, ← Modes.dotSet_lines false]
      rfl
  have hfits : (pairForm multiline).fits = true := by
    cases multiline with
    | false => decide +kernel
    | true => decide +kernel
  rw [← hform] at hfits ⊢
  exact Regex.compile?_of_parse? hparse rfl hfits

/-- The pair between anchors, with the line flag and without. -/
def pair (multiline : Bool) : Pattern :=
  ⟨anchored pairSource, false, multiline, pairForm multiline, compile?_pair multiline⟩

/-- The dot takes a character of its line; it does not reach over the line feed, as it does without
the flag. -/
theorem isMatch_lines_iff_pair :
    (pair true).isMatch "x\nab" = true ∧ (pair true).isMatch "a\nx" = false ∧
      (pair false).isMatch "a\n" = true := by
  have hparse : Regex.parse? pairSource.toList = some pairTree := by decide +kernel
  have hlines := isMatch_lines_iff hparse isPlain_pairTree (ofSource?_eq_some (compile?_pair true))
    (ofSource?_eq_some (compile?_pair false))
  refine ⟨?_, ?_, by decide +kernel⟩
  · exact (hlines "x\nab").mpr ⟨['a', 'b'], by decide, by decide +kernel⟩
  · rw [← Bool.not_eq_true]
    refine (hlines "a\nx").not.mpr ?_
    decide +kernel

end Pattern

end TagSieve
