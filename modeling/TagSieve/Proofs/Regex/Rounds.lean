import Mathlib.Data.Nat.Init
import TagSieve.Proofs.Regex.Matching

/-! Counted repetitions. No more rounds than there are characters get anywhere, so counts beyond the
length of a text can be cut, and a search finds what the form of a pattern matches. -/
namespace TagSieve.Regex

open Relation

variable {text : List Char} {r tail : Node} {f : Form} {i j k n limit least : Nat}
  {most : Option Nat} {R S : Nat → Nat → Prop}

/-- So many steps of a relation, one behind the other. -/
def Rounds (R : Nat → Nat → Prop) : Nat → Nat → Nat → Prop
  | 0 => fun i j => i = j
  | n + 1 => Comp R (Rounds R n)

theorem reflTransGen_iff_rounds : ReflTransGen R i j ↔ ∃ n, Rounds R n i j := by
  constructor
  · intro h
    induction h using ReflTransGen.head_induction_on with
    | refl => exact ⟨0, rfl⟩
    | head hik _ ih =>
      obtain ⟨n, hn⟩ := ih
      exact ⟨n + 1, _, hik, hn⟩
  · rintro ⟨n, hn⟩
    induction n generalizing i with
    | zero =>
      obtain rfl : i = j := hn
      exact .refl
    | succ n ih =>
      obtain ⟨k, hik, hkj⟩ := hn
      exact .head hik (ih hkj)

theorem comp_rounds (R : Nat → Nat → Prop) (m n : Nat) :
    Comp (Rounds R m) (Rounds R n) = Rounds R (m + n) := by
  induction m with
  | zero =>
    rw [Nat.zero_add]
    exact eq_comp
  | succ m ih => rw [Nat.add_right_comm, Rounds, Rounds, comp_assoc, ih]

namespace Forwards

theorem rounds (hR : Forwards n R) (k : Nat) : Forwards n (Rounds R k) := by
  induction k with
  | zero =>
    rintro i j rfl
    omega
  | succ k ih => exact hR.comp ih

/-- If there are more rounds than characters, some round reads nothing and can be left out. -/
theorem rounds_of_succ (hR : Forwards n R) (hij : j ≤ i + k) (h : Rounds R (k + 1) i j) :
    Rounds R k i j := by
  induction k generalizing i with
  | zero =>
    obtain ⟨m, him, rfl⟩ := h
    have hstep := hR i m him
    obtain rfl : m = i := by omega
    rfl
  | succ k ih =>
    obtain ⟨m, him, hmj⟩ := h
    have hstep := hR i m him
    by_cases hstays : m = i
    · subst hstays
      exact hmj
    · exact ⟨m, him, ih (by omega) hmj⟩

/-- It can as well be run again. -/
theorem succ_of_rounds (hR : Forwards n R) (hij : j < i + k) (h : Rounds R k i j) :
    Rounds R (k + 1) i j := by
  induction k generalizing i with
  | zero =>
    obtain rfl : i = j := h
    omega
  | succ k ih =>
    obtain ⟨m, him, hmj⟩ := h
    have hstep := hR i m him
    by_cases hstays : m = i
    · subst hstays
      exact ⟨m, him, m, him, hmj⟩
    · exact ⟨m, him, ih (by omega) hmj⟩

theorem rounds_cut (hR : Forwards n R) (hlimit : n < limit) (hk : limit ≤ k) :
    Rounds R k i j ↔ Rounds R limit i j := by
  induction k, hk using Nat.le_induction with
  | base => exact Iff.rfl
  | succ k hk ih =>
    rw [← ih]
    constructor
    · intro h
      have hij := hR.rounds _ i j h
      exact hR.rounds_of_succ (by omega) h
    · intro h
      have hij := hR.rounds _ i j h
      exact hR.succ_of_rounds (by omega) h

end Forwards

/-- Whether a repetition may have so many rounds. -/
def Allows (least : Nat) (most : Option Nat) (n : Nat) : Prop :=
  least ≤ n ∧ ∀ m, most = some m → n ≤ max least m

/-- Bounds that are cut at more rounds than there are characters allow the same. -/
theorem exists_rounds_cut (hR : Forwards n R) (hlimit : n < limit) :
    (∃ k, Allows (min least limit) (most.map (min · limit)) k ∧ Rounds R k i j) ↔
      ∃ k, Allows least most k ∧ Rounds R k i j := by
  constructor
  · rintro ⟨k, ⟨hleast, hmost⟩, h⟩
    by_cases hk : k < limit
    · refine ⟨k, ⟨by omega, ?_⟩, h⟩
      rintro m rfl
      have hle : k ≤ max (min least limit) (min m limit) := hmost _ rfl
      omega
    · -- A bound was cut, so `limit` rounds stand for all larger numbers of rounds.
      have hcut := (hR.rounds_cut hlimit (Nat.le_of_not_lt hk)).mp h
      cases most with
      | none =>
        have hle := Nat.le_max_right least limit
        exact ⟨max least limit, ⟨Nat.le_max_left _ _, nofun⟩, (hR.rounds_cut hlimit hle).mpr hcut⟩
      | some m =>
        have hle : k ≤ max (min least limit) (min m limit) := hmost _ rfl
        have hlarge : limit ≤ max least m := by omega
        refine ⟨max least m, ⟨Nat.le_max_left _ _, ?_⟩, (hR.rounds_cut hlimit hlarge).mpr hcut⟩
        rintro _ ⟨⟩
        exact Nat.le_refl _
  · rintro ⟨k, ⟨hleast, hmost⟩, h⟩
    refine ⟨min k limit, ⟨by omega, ?_⟩, ?_⟩
    · intro m hm
      obtain ⟨m', rfl, rfl⟩ := Option.map_eq_some_iff.mp hm
      have hle := hmost _ rfl
      omega
    · rcases Nat.le_total k limit with hle | hle
      · rwa [Nat.min_eq_left hle]
      · rw [Nat.min_eq_right hle]
        exact (hR.rounds_cut hlimit hle).mp h

namespace Node

theorem matches_copies (text : List Char) (r : Node) (n : Nat) (tail : Node) :
    (copies r n tail).Matches text = Comp (Rounds (r.Matches text) n) (tail.Matches text) := by
  induction n with
  | zero => exact eq_comp.symm
  | succ n ih => rw [copies, Matches, ih, Rounds, comp_assoc]

theorem matches_atMost (text : List Char) (r : Node) (n : Nat) :
    (atMost r n).Matches text i j ↔ ∃ k, k ≤ n ∧ Rounds (r.Matches text) k i j := by
  induction n generalizing i with
  | zero => simp [atMost, Matches, Rounds]
  | succ n ih =>
    have hmore : (atMost r (n + 1)).Matches text i j ↔
        Comp (r.Matches text) ((atMost r n).Matches text) i j ∨ i = j := by
      cases n with
      | zero =>
        rw [atMost, atMost, Matches, Matches, comp_eq]
        exact Iff.rfl
      | succ n => rfl
    rw [hmore]
    constructor
    · rintro (⟨m, him, hmj⟩ | rfl)
      · obtain ⟨k, hk, hrounds⟩ := ih.mp hmj
        exact ⟨k + 1, by omega, m, him, hrounds⟩
      · exact ⟨0, Nat.zero_le _, rfl⟩
    · rintro ⟨k, hk, hrounds⟩
      cases k with
      | zero => exact Or.inr hrounds
      | succ k =>
        obtain ⟨m, him, hmj⟩ := hrounds
        exact Or.inl ⟨m, him, ih.mpr ⟨k, by omega, hmj⟩⟩

/-- So many rounds, and then the further ones that the tail stands for. -/
theorem matches_copies_rounds {Further : Nat → Prop} (htail : ∀ i, tail.Matches text i j ↔
      ∃ n, Further n ∧ Rounds (r.Matches text) n i j) :
    (copies r n tail).Matches text i j ↔
      ∃ k, n ≤ k ∧ Further (k - n) ∧ Rounds (r.Matches text) k i j := by
  rw [matches_copies]
  constructor
  · rintro ⟨m, him, hmj⟩
    obtain ⟨k, hk, hrounds⟩ := (htail m).mp hmj
    refine ⟨n + k, Nat.le_add_right n k, ?_, ?_⟩
    · rwa [Nat.add_sub_cancel_left]
    · rw [← comp_rounds]
      exact ⟨m, him, hrounds⟩
  · rintro ⟨k, hnk, hk, hrounds⟩
    rw [← Nat.add_sub_cancel' hnk, ← comp_rounds] at hrounds
    obtain ⟨m, him, hmj⟩ := hrounds
    exact ⟨m, him, (htail m).mpr ⟨k - n, hk, hmj⟩⟩

theorem matches_times (text : List Char) (r : Node) (least : Nat) (most : Option Nat) :
    (times least most r).Matches text i j ↔
      ∃ k, Allows least most k ∧ Rounds (r.Matches text) k i j := by
  cases most with
  | none =>
    have hstar (i : Nat) : (star r).Matches text i j ↔
        ∃ n, True ∧ Rounds (r.Matches text) n i j := by
      simp only [Matches, reflTransGen_iff_rounds, true_and]
    rw [times, matches_copies_rounds hstar]
    simp [Allows]
  | some m =>
    rw [times, matches_copies_rounds fun i => matches_atMost text r (m - least)]
    refine exists_congr fun k => ?_
    simp only [Allows, Option.some.injEq, forall_eq', ← and_assoc]
    refine and_congr_left fun _ => ?_
    omega

namespace Unmarked
variable {a b : Node}

theorem cat (ha : Unmarked text a) (hb : Unmarked text b) : Unmarked text (cat a b) := by
  rintro i j (h | ⟨k, h, -⟩)
  · exact hb i j h
  · exact ha i k h

theorem alt (ha : Unmarked text a) (hb : Unmarked text b) : Unmarked text (alt a b) := by
  rintro i j (h | h)
  · exact ha i j h
  · exact hb i j h

theorem copies (hr : Unmarked text r) (htail : Unmarked text tail) (n : Nat) :
    Unmarked text (copies r n tail) := by
  induction n with
  | zero => exact htail
  | succ n ih => exact hr.cat ih

theorem atMost (hr : Unmarked text r) (n : Nat) : Unmarked text (atMost r n) := by
  induction n with
  | zero => exact nofun
  | succ n ih =>
    cases n with
    | zero => exact hr.alt nofun
    | succ n => exact (hr.cat ih).alt nofun

theorem times (hr : Unmarked text r) (least : Nat) (most : Option Nat) :
    Unmarked text (times least most r) := by
  cases most with
  | none =>
    have hstar : Unmarked text (star r) := by
      rintro i j ⟨k, h, -⟩
      exact hr i k h
    exact hr.copies hstar least
  | some m => exact hr.copies (hr.atMost (m - least)) least

end Unmarked

end Node

namespace Form

/-- The matches of a form in a text, by where they start and end. -/
def Matches (text : List Char) : Form → Nat → Nat → Prop
  | empty => fun i j => i = j
  | look a => fun i j => i = j ∧ (gapAt text i).satisfies a = true
  | set s => fun i j => j = i + 1 ∧ ∃ c, text[i]? = some c ∧ s.covers c.toNat = true
  | group _ body => Matches text body
  | cat a b => Comp (Matches text a) (Matches text b)
  | alt a b => fun i j => Matches text a i j ∨ Matches text b i j
  | times least most _ body => fun i j =>
    ∃ n, Allows least most n ∧ Rounds (Matches text body) n i j

theorem matches_unfold (hlimit : text.length < limit) (f : Form) :
    (f.unfold limit).Matches text = f.Matches text := by
  induction f with
  | empty | look | set => rfl
  | group captures body ih => exact ih
  | cat a b iha ihb => rw [unfold, Node.Matches, Matches, iha, ihb]
  | alt a b iha ihb => rw [unfold, Node.Matches, Matches, iha, ihb]
  | times least most lazy body ih =>
    funext i j
    have hforwards := Node.forwards_matches text (body.unfold limit)
    rw [unfold, Matches, ← ih, eq_iff_iff, Node.matches_times, exists_rounds_cut hforwards hlimit]

/-- A search starts without marks. -/
theorem unmarked_unfold (text : List Char) (limit : Nat) (f : Form) :
    (f.unfold limit).Unmarked text := by
  induction f with
  | empty | look => exact nofun
  | set => exact nofun
  | group captures body ih => exact ih
  | cat a b iha ihb => exact iha.cat ihb
  | alt a b iha ihb => exact iha.alt ihb
  | times least most lazy body ih => exact ih.times _ _

/-- A search finds a match of the form if there is one anywhere in the text. -/
theorem search_iff (f : Form) (text : List Char) :
    f.search text = true ↔ ∃ i j, i ≤ text.length ∧ f.Matches text i j := by
  rw [search, Node.search_iff _ (unmarked_unfold text _ f),
    matches_unfold (Nat.lt_succ_self text.length)]

end Form

end TagSieve.Regex
