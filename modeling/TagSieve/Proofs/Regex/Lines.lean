import TagSieve.Proofs.Regex.Rounds

/-! Lines. A form that reads no line feed and asks nothing of gaps matches in a line of a text what it
matches in that line alone, so between line anchors it is looked for in every line. -/
namespace TagSieve.Regex

open Relation
open Unicode (Ranges)

variable {text pre line post cs : List Char} {f f' : Form} {i j k n : Nat}
  {R S R' S' : Nat → Nat → Prop}

/-- A stretch of a text that reaches from a line feed or the start to a line feed or the end. -/
structure IsLine (pre line post : List Char) : Prop where
  unbroken : '\n' ∉ line
  starts : ∀ c ∈ pre.getLast?, c = '\n'
  ends : ∀ c ∈ post.head?, c = '\n'

theorem exists_isLine_of_mem {text : List Char} (h : line ∈ text.splitOn '\n') :
    ∃ pre post, text = pre ++ line ++ post ∧ IsLine pre line post := by
  by_cases hfeed : '\n' ∈ text
  · obtain ⟨first, rest, rfl, hfirst⟩ := List.eq_append_cons_of_mem hfeed
    rw [List.splitOn_append_cons_self_of_not_mem hfirst] at h
    rcases List.mem_cons.mp h with rfl | h
    · refine ⟨[], '\n' :: rest, rfl, hfirst, nofun, ?_⟩
      simp
    · obtain ⟨pre, post, hrest, hline⟩ := exists_isLine_of_mem h
      refine ⟨first ++ '\n' :: pre, post, by simp [hrest], hline.unbroken, ?_, hline.ends⟩
      cases pre with
      | nil => simp
      | cons c pre => simpa using hline.starts
  · rw [List.splitOn_eq_singleton hfeed, List.mem_singleton] at h
    exact ⟨[], [], by simp [h], h ▸ hfeed, nofun, nofun⟩
termination_by text.length
decreasing_by
  subst_vars
  simp only [List.length_append, List.length_cons]
  omega

theorem IsLine.mem_splitOn (h : IsLine pre line post) :
    line ∈ (pre ++ line ++ post).splitOn '\n' := by
  have hfirst : line ∈ (line ++ post).splitOn '\n' := by
    cases post with
    | nil =>
      rw [List.append_nil, List.splitOn_eq_singleton h.unbroken]
      exact List.mem_singleton_self line
    | cons c post =>
      obtain rfl : c = '\n' := h.ends c rfl
      rw [List.splitOn_append_cons_self_of_not_mem h.unbroken]
      exact List.mem_cons_self
  cases hlast : pre.getLast? with
  | none =>
    rw [List.getLast?_eq_none_iff.mp hlast]
    exact hfirst
  | some c =>
    obtain ⟨front, rfl⟩ := List.getLast?_eq_some_iff.mp hlast
    obtain rfl : c = '\n' := h.starts c hlast
    rw [List.append_assoc, List.append_assoc, List.singleton_append,
      List.splitOn_append_cons_self]
    exact List.mem_append_right _ hfirst

/-- The lines of a text are what lies between its line feeds. -/
theorem mem_splitOn_iff :
    line ∈ text.splitOn '\n' ↔ ∃ pre post, text = pre ++ line ++ post ∧ IsLine pre line post := by
  refine ⟨exists_isLine_of_mem, ?_⟩
  rintro ⟨pre, post, rfl, h⟩
  exact h.mem_splitOn

/-- Two positions part a text in three. -/
theorem exists_parts (hij : i ≤ j) (hj : j ≤ text.length) :
    ∃ pre line post, text = pre ++ line ++ post ∧ i = pre.length ∧ j = (pre ++ line).length := by
  have hfront : text.take i = (text.take j).take i := by
    rw [List.take_take, Nat.min_eq_left hij]
  have hjoined : text.take i ++ (text.take j).drop i = text.take j := by
    rw [hfront, List.take_append_drop]
  refine ⟨text.take i, (text.take j).drop i, text.drop j, ?_, ?_, ?_⟩
  · rw [hjoined, List.take_append_drop]
  · rw [List.length_take, Nat.min_eq_left (by omega)]
  · rw [hjoined, List.length_take, Nat.min_eq_left hj]

theorem getElem?_inner (pre post : List Char) (hk : k < cs.length) :
    (pre ++ cs ++ post)[pre.length + k]? = some cs[k] := by
  rw [List.append_assoc, List.getElem?_append_right (Nat.le_add_right _ _),
    Nat.add_sub_cancel_left, List.getElem?_append_left hk, List.getElem?_eq_getElem hk]

theorem satisfies_textStart_iff (hi : i ≤ text.length) :
    (gapAt text i).satisfies .textStart = true ↔ i = 0 := by
  cases i with
  | zero => exact iff_of_true rfl rfl
  | succ i =>
    have hc : text[i]? = some text[i] := List.getElem?_eq_getElem hi
    simp [gapAt, charBefore, Gap.satisfies, hc]

theorem satisfies_textEnd_iff (text : List Char) (i : Nat) :
    (gapAt text i).satisfies .textEnd = true ↔ text.length ≤ i := by
  rw [gapAt, Gap.satisfies, Option.isNone_iff_eq_none, List.getElem?_eq_none_iff]

theorem satisfies_lineStart_iff (pre rest : List Char) :
    (gapAt (pre ++ rest) pre.length).satisfies .lineStart = true ↔
      ∀ c ∈ pre.getLast?, c = '\n' := by
  cases hlast : pre.getLast? with
  | none =>
    rw [List.getLast?_eq_none_iff.mp hlast]
    exact iff_of_true rfl nofun
  | some c =>
    obtain ⟨front, rfl⟩ := List.getLast?_eq_some_iff.mp hlast
    simp [gapAt, charBefore, Gap.satisfies]

theorem satisfies_lineEnd_iff (front post : List Char) :
    (gapAt (front ++ post) front.length).satisfies .lineEnd = true ↔
      ∀ c ∈ post.head?, c = '\n' := by
  cases post with
  | nil => simp [gapAt, Gap.satisfies]
  | cons c post => simp [gapAt, Gap.satisfies]

/-- At the positions of a line, one relation in the text leads where another one leads in the line
alone. -/
def Agree (start n : Nat) (R R' : Nat → Nat → Prop) : Prop :=
  ∀ i j, j ≤ n → (R (start + i) (start + j) ↔ R' i j)

namespace Agree
variable {start m : Nat}

theorem comp (hR : Forwards m R) (hS : Forwards m S) (hS' : Forwards n S')
    (h : Agree start n R R') (hrest : Agree start n S S') :
    Agree start n (Comp R S) (Comp R' S') := by
  intro i j hj
  constructor
  · rintro ⟨k, hik, hkj⟩
    have hfirst := hR _ _ hik
    have hsecond := hS _ _ hkj
    obtain ⟨k, rfl⟩ := Nat.exists_eq_add_of_le (show start ≤ k by omega)
    exact ⟨k, (h i k (by omega)).mp hik, (hrest k j hj).mp hkj⟩
  · rintro ⟨k, hik, hkj⟩
    have hsecond := hS' _ _ hkj
    exact ⟨start + k, (h i k (by omega)).mpr hik, (hrest k j hj).mpr hkj⟩

theorem rounds (hR : Forwards m R) (hR' : Forwards n R') (h : Agree start n R R') (k : Nat) :
    Agree start n (Rounds R k) (Rounds R' k) := by
  induction k with
  | zero =>
    intro i j hj
    exact Nat.add_left_cancel_iff
  | succ k ih => exact comp hR (hR.rounds k) (hR'.rounds k) h ih

end Agree

namespace Form

theorem forwards_matches (text : List Char) (f : Form) :
    Forwards text.length (f.Matches text) := by
  rw [← matches_unfold (Nat.lt_succ_self text.length)]
  exact Node.forwards_matches text _

/-- The first form reads what the second one reads, except line feeds, and both are built alike. -/
inductive SparesFeed : Form → Form → Prop
  | empty : SparesFeed .empty .empty
  | set {s s' : Ranges} (hfeed : s.covers '\n'.toNat = false)
      (hothers : ∀ c, c ≠ '\n' → s.covers c.toNat = s'.covers c.toNat) :
      SparesFeed (.set s) (.set s')
  | group {f f' : Form} (captures : Bool) (h : SparesFeed f f') :
      SparesFeed (.group captures f) (.group captures f')
  | cat {a a' b b' : Form} (ha : SparesFeed a a') (hb : SparesFeed b b') :
      SparesFeed (.cat a b) (.cat a' b')
  | alt {a a' b b' : Form} (ha : SparesFeed a a') (hb : SparesFeed b b') :
      SparesFeed (.alt a b) (.alt a' b')
  | times {f f' : Form} (least : Nat) (most : Option Nat) (lazy : Bool) (h : SparesFeed f f') :
      SparesFeed (.times least most lazy f) (.times least most lazy f')

namespace SparesFeed

theorem isZeroWidth_eq (h : SparesFeed f f') : f.isZeroWidth = f'.isZeroWidth := by
  induction h with
  | empty | set => rfl
  | group captures _ ih => exact ih
  | cat _ _ iha ihb => rw [isZeroWidth, isZeroWidth, iha, ihb]
  | alt _ _ iha ihb => rw [isZeroWidth, isZeroWidth, iha, ihb]
  | times least most lazy _ ih => rw [isZeroWidth, isZeroWidth, ih]

theorem repeated (h : SparesFeed f f') (least : Nat) (most : Option Nat) (lazy : Bool) :
    SparesFeed (f.repeated least most lazy) (f'.repeated least most lazy) := by
  rw [Form.repeated, Form.repeated, h.isZeroWidth_eq]
  split
  · exact h.times _ _ _
  · exact h.times _ _ _

/-- No match of the first form runs over a line feed. -/
theorem no_feed (h : SparesFeed f f') (hmatch : f.Matches text i j) (hik : i ≤ k) (hkj : k < j) :
    text[k]? ≠ some '\n' := by
  induction h generalizing i j with
  | empty =>
    obtain rfl : i = j := hmatch
    omega
  | set hfeed _ =>
    obtain ⟨rfl, c, hc, hcovers⟩ := hmatch
    obtain rfl : k = i := by omega
    rw [hc]
    rintro ⟨⟩
    rw [hcovers] at hfeed
    exact absurd hfeed nofun
  | group captures _ ih => exact ih hmatch hik hkj
  | cat _ _ iha ihb =>
    obtain ⟨m, him, hmj⟩ := hmatch
    by_cases hkm : k < m
    · exact iha him hik hkm
    · exact ihb hmj (Nat.le_of_not_lt hkm) hkj
  | alt _ _ iha ihb =>
    rcases hmatch with hmatch | hmatch
    · exact iha hmatch hik hkj
    · exact ihb hmatch hik hkj
  | times least most lazy _ ih =>
    obtain ⟨n, -, hrounds⟩ := hmatch
    induction n generalizing i with
    | zero =>
      obtain rfl : i = j := hrounds
      omega
    | succ n ihn =>
      obtain ⟨m, him, hmj⟩ := hrounds
      by_cases hkm : k < m
      · exact ih him hik hkm
      · exact ihn (Nat.le_of_not_lt hkm) hmj

/-- In a line, the first form matches what the second one matches in that line alone. -/
theorem agree (h : SparesFeed f f') (hcs : '\n' ∉ cs) (pre post : List Char) :
    Agree pre.length cs.length (f.Matches (pre ++ cs ++ post)) (f'.Matches cs) := by
  induction h with
  | empty =>
    intro i j hj
    exact Nat.add_left_cancel_iff
  | set _ hothers =>
    intro i j hj
    simp only [Matches, Nat.add_assoc, Nat.add_left_cancel_iff]
    refine and_congr_right ?_
    rintro rfl
    have hi : i < cs.length := hj
    have hne : cs[i] ≠ '\n' := fun h => hcs (h ▸ List.getElem_mem hi)
    simp only [getElem?_inner pre post hi, List.getElem?_eq_getElem hi, Option.some.injEq,
      exists_eq_left', hothers _ hne]
  | group captures _ ih => exact ih
  | cat _ _ iha ihb =>
    exact .comp (forwards_matches _ _) (forwards_matches _ _) (forwards_matches _ _) iha ihb
  | alt _ _ iha ihb => exact fun i j hj => or_congr (iha i j hj) (ihb i j hj)
  | times least most lazy _ ih =>
    intro i j hj
    refine exists_congr fun n => and_congr_right fun _ => ?_
    exact ih.rounds (forwards_matches _ _) (forwards_matches _ _) n i j hj

end SparesFeed

/-- Between the anchors of a text a form is found if it matches the whole text. -/
theorem search_textAnchors (f : Form) (text : List Char) :
    (Form.cat (look .textStart) (.cat f (look .textEnd))).search text = true ↔
      f.Matches text 0 text.length := by
  rw [search_iff]
  constructor
  · rintro ⟨i, _, hi, _, ⟨rfl, hstart⟩, j, hmatch, rfl, hend⟩
    obtain rfl := (satisfies_textStart_iff hi).mp hstart
    have hend := (satisfies_textEnd_iff text j).mp hend
    have hij := forwards_matches text f 0 j hmatch
    obtain rfl : j = text.length := by omega
    exact hmatch
  · intro hmatch
    have hstart := (satisfies_textStart_iff (Nat.zero_le text.length)).mpr rfl
    have hend := (satisfies_textEnd_iff text text.length).mpr (Nat.le_refl _)
    exact ⟨0, text.length, Nat.zero_le _, 0, ⟨rfl, hstart⟩, text.length, hmatch, rfl, hend⟩

/-- Between line anchors a form that spares line feeds is found where its like matches a whole
line. -/
theorem SparesFeed.search_lineAnchors (h : SparesFeed f f') (text : List Char) :
    (Form.cat (look .lineStart) (.cat f (look .lineEnd))).search text = true ↔
      ∃ line ∈ text.splitOn '\n', f'.Matches line 0 line.length := by
  simp only [search_iff, mem_splitOn_iff]
  constructor
  · rintro ⟨i, _, hi, _, ⟨rfl, hstart⟩, j, hmatch, rfl, hend⟩
    have hij := forwards_matches text f i j hmatch
    have hj : j ≤ text.length := by omega
    obtain ⟨pre, line, post, rfl, rfl, rfl⟩ := exists_parts hij.1 hj
    rw [satisfies_lineEnd_iff] at hend
    rw [List.append_assoc, satisfies_lineStart_iff] at hstart
    have hunbroken : '\n' ∉ line := by
      intro hfeed
      obtain ⟨k, hk, hc⟩ := List.getElem_of_mem hfeed
      have hkj : pre.length + k < (pre ++ line).length := by
        rw [List.length_append]
        omega
      refine h.no_feed hmatch (Nat.le_add_right _ k) hkj ?_
      rw [getElem?_inner pre post hk, hc]
    refine ⟨line, ⟨pre, post, rfl, hunbroken, hstart, hend⟩, ?_⟩
    rw [List.length_append] at hmatch
    exact (h.agree hunbroken pre post 0 line.length (Nat.le_refl _)).mp hmatch
  · rintro ⟨line, ⟨pre, post, rfl, hline⟩, hmatch⟩
    have hstart := (satisfies_lineStart_iff pre (line ++ post)).mpr hline.starts
    have hend := (satisfies_lineEnd_iff (pre ++ line) post).mpr hline.ends
    rw [← List.append_assoc] at hstart
    rw [← (h.agree hline.unbroken pre post) 0 line.length (Nat.le_refl _),
      ← List.length_append] at hmatch
    refine ⟨pre.length, (pre ++ line).length, ?_, _, ⟨rfl, hstart⟩, _, hmatch, rfl, hend⟩
    simp only [List.length_append]
    omega

end Form

end TagSieve.Regex
