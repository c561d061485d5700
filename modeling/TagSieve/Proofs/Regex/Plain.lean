import TagSieve.Pattern
import TagSieve.Proofs.Regex.Lines
import TagSieve.Proofs.Unicode.Folding

/-! Plain patterns: characters other than the line feed, dots, groups that switch nothing, sequences,
choices and repetitions. Of the two settings that the line flag changes, only the one for dots matters
to them. -/
namespace TagSieve.Regex

open Unicode (Ranges)

variable {t : Tree} {c : Char}

namespace Modes

theorem dotSet_lines (ignoreCase : Bool) :
    (ofFlags ignoreCase true).dotSet = [(0, 0x9), (0xB, 0xD7FF), (0xE000, 0x10FFFF)] := by
  cbv

theorem dotSet_whole (ignoreCase : Bool) :
    (ofFlags ignoreCase false).dotSet = [(0, 0xD7FF), (0xE000, 0x10FFFF)] := by
  cbv

/-- A dot stands for every character; with the line flag, for every one but the line feed. -/
theorem covers_dotSet_iff (ignoreCase multiline : Bool) (c : Char) :
    (ofFlags ignoreCase multiline).dotSet.covers c.toNat = true ↔
      ¬ (multiline = true ∧ c = '\n') := by
  have hvalid : c.toNat < 0xD800 ∨ 0xDFFF < c.toNat ∧ c.toNat < 0x110000 := c.valid
  cases multiline with
  | false =>
    rw [dotSet_whole]
    simp [Ranges.covers]
    omega
  | true =>
    rw [dotSet_lines, ← Char.toNat_inj]
    simp [Ranges.covers]
    omega

/-- A literal that is no line feed does not stand for one either. -/
theorem covers_literalSet_lineFeed (m : Modes) (hc : c ≠ '\n') :
    (m.literalSet c).covers '\n'.toNat = false := by
  unfold literalSet
  split
  · exact (Unicode.avoids_lineFeed_withCases hc m.unicode).covers
  · have hne : c.toNat ≠ '\n'.toNat := fun h => hc (Char.toNat_inj.mp h)
    rw [← Bool.not_eq_true]
    intro hcovers
    obtain ⟨p, hp, hlow, hhigh⟩ := Ranges.exists_of_covers hcovers
    rw [List.mem_singleton.mp hp] at hlow hhigh
    exact hne (Nat.le_antisymm hlow hhigh)

end Modes

namespace Tree

/-- Whether a tree has nothing but literals other than the line feed, dots, groups without switches,
sequences, choices and repetitions. -/
def IsPlain : Tree → Prop
  | empty | dot => True
  | literal c | byte c => c ≠ '\n'
  | group _ cs body => cs = [] ∧ body.IsPlain
  | cat a b | alt a b => a.IsPlain ∧ b.IsPlain
  | times _ _ _ body => body.IsPlain
  | anchor _ | set _ | changes _ => False

theorem snd_toForm_of_isPlain (ht : t.IsPlain) (m : Modes) : (t.toForm m).2 = m := by
  induction t with
  | empty | literal | byte | dot | group => rfl
  | anchor | set | changes => exact ht.elim
  | cat a b iha ihb => simp only [toForm, iha ht.1, ihb ht.2]
  | alt a b iha ihb => simp only [toForm, iha ht.1, ihb ht.2]
  | times least most lazy body ih => exact ih ht

/-- What the line flag changes in a plain tree is whether dots spare line feeds. -/
theorem sparesFeed_toForm (ht : t.IsPlain) (ignoreCase : Bool) :
    Form.SparesFeed (t.toForm (.ofFlags ignoreCase true)).1
      (t.toForm (.ofFlags ignoreCase false)).1 := by
  induction t with
  | empty => exact .empty
  | literal c => exact .set (Modes.covers_literalSet_lineFeed _ ht) fun _ _ => rfl
  | byte c => exact .set (Modes.covers_literalSet_lineFeed _ ht) fun _ _ => rfl
  | dot =>
    refine .set ?_ fun c hc => ?_
    · rw [← Bool.not_eq_true, Modes.covers_dotSet_iff]
      simp
    · rw [Bool.eq_iff_iff, Modes.covers_dotSet_iff, Modes.covers_dotSet_iff]
      simp [hc]
  | anchor | set | changes => exact ht.elim
  | group captures cs body ih =>
    obtain ⟨rfl, hbody⟩ := ht
    exact (ih hbody).group captures
  | cat a b iha ihb =>
    simp only [toForm, snd_toForm_of_isPlain ht.1]
    exact (iha ht.1).cat (ihb ht.2)
  | alt a b iha ihb =>
    simp only [toForm, snd_toForm_of_isPlain ht.1]
    exact (iha ht.1).alt (ihb ht.2)
  | times least most lazy body ih =>
    have hbody : body.IsPlain := ht
    simp only [toForm, snd_toForm_of_isPlain hbody]
    exact (ih hbody).repeated least most _

end Tree

end TagSieve.Regex
