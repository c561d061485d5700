import Mathlib.Logic.Relation
import Mathlib.Tactic.Tauto
import TagSieve.Regex.Node

/-! What a matching form matches, and that a search by marks finds just that. A match leads from one
position of a text to another, and a marked leaf stands for the matches that have come as far as to
its character. -/
namespace TagSieve.Regex

open Relation

variable {text cs : List Char} {r : Node} {i j k p : Nat} {c : Char} {enter : Bool}
  {R S : Nat → Nat → Prop}

def charBefore (text : List Char) : Nat → Option Char
  | 0 => none
  | i + 1 => text[i]?

/-- The gap at a position, between the character before it and the one behind it. -/
def gapAt (text : List Char) (i : Nat) : Gap := ⟨charBefore text i, text[i]?⟩

/-- A relation that leads forwards within the first `n` positions, or nowhere. -/
def Forwards (n : Nat) (R : Nat → Nat → Prop) : Prop := ∀ i j, R i j → i ≤ j ∧ j ≤ max i n

namespace Forwards
variable {n : Nat}

theorem comp (hR : Forwards n R) (hS : Forwards n S) : Forwards n (Comp R S) := by
  rintro i j ⟨k, hik, hkj⟩
  have hfirst := hR i k hik
  have hsecond := hS k j hkj
  omega

theorem reflTransGen (hR : Forwards n R) : Forwards n (ReflTransGen R) := by
  intro i j h
  induction h with
  | refl => omega
  | tail _ hlast ih =>
    have hstep := hR _ _ hlast
    omega

/-- The first of two steps stays where it is, or it does not. -/
theorem comp_iff (hR : Forwards n R) :
    Comp R S i j ↔ (R i i ∧ S i j) ∨ ∃ k, i < k ∧ R i k ∧ S k j := by
  constructor
  · rintro ⟨k, hik, hkj⟩
    have hstep := hR i k hik
    by_cases hstays : k = i
    · subst hstays
      exact Or.inl ⟨hik, hkj⟩
    · exact Or.inr ⟨k, by omega, hik, hkj⟩
  · rintro (⟨hii, hij⟩ | ⟨k, -, hik, hkj⟩)
    · exact ⟨i, hii, hij⟩
    · exact ⟨k, hik, hkj⟩

/-- Of several rounds that get somewhere, one is the first that does. -/
theorem rounds_iff (hR : Forwards n R) (hij : i < j) :
    ReflTransGen R i j ↔ ∃ k, i < k ∧ R i k ∧ ReflTransGen R k j := by
  constructor
  · intro h
    induction h using ReflTransGen.head_induction_on with
    | refl => exact absurd hij (Nat.lt_irrefl _)
    | @head i k hik hkj ih =>
      by_cases hstays : i = k
      · subst hstays
        exact ih hij
      · have hstep := hR i k hik
        exact ⟨k, by omega, hik, hkj⟩
  · rintro ⟨k, -, hik, hkj⟩
    exact .head hik hkj

/-- Two steps that lead nowhere stay where they are. -/
theorem comp_self_iff (hR : Forwards n R) (hS : Forwards n S) : Comp R S i i ↔ R i i ∧ S i i := by
  rw [hR.comp_iff, or_iff_left]
  rintro ⟨k, hik, -, hki⟩
  have hback := hS k i hki
  omega

end Forwards

namespace Node

/-- The matches of a node in a text, by where they start and end. Marks do not count. -/
def Matches (text : List Char) : Node → Nat → Nat → Prop
  | empty => fun i j => i = j
  | look a => fun i j => i = j ∧ (gapAt text i).satisfies a = true
  | leaf _ s => fun i j => j = i + 1 ∧ ∃ c, text[i]? = some c ∧ s.covers c.toNat = true
  | cat a b => Comp (Matches text a) (Matches text b)
  | alt a b => fun i j => Matches text a i j ∨ Matches text b i j
  | star a => ReflTransGen (Matches text a)

/-- What is left of the matches that have come to a marked leaf, from the position behind it to
where they end. -/
def Continues (text : List Char) : Node → Nat → Nat → Prop
  | empty | look _ => fun _ _ => False
  | leaf marked _ => fun p j => marked = true ∧ p = j
  | cat a b => fun p j => Continues text b p j ∨ Comp (Continues text a) (Matches text b) p j
  | alt a b => fun p j => Continues text a p j ∨ Continues text b p j
  | star a => Comp (Continues text a) (ReflTransGen (Matches text a))

theorem forwards_matches (text : List Char) (r : Node) :
    Forwards text.length (r.Matches text) := by
  induction r with
  | empty =>
    rintro i j rfl
    omega
  | look a =>
    rintro i j ⟨rfl, -⟩
    omega
  | leaf marked s =>
    rintro i j ⟨rfl, c, hc, -⟩
    have hlt : i < text.length := (List.getElem?_eq_some_iff.mp hc).1
    omega
  | cat a b iha ihb => exact iha.comp ihb
  | alt a b iha ihb =>
    rintro i j (h | h)
    · exact iha i j h
    · exact ihb i j h
  | star a ih => exact ih.reflTransGen

theorem forwards_continues (text : List Char) (r : Node) :
    Forwards text.length (r.Continues text) := by
  induction r with
  | empty | look => exact nofun
  | leaf marked s =>
    rintro p j ⟨-, rfl⟩
    omega
  | cat a b iha ihb =>
    rintro p j (h | h)
    · exact ihb p j h
    · exact iha.comp (forwards_matches text b) p j h
  | alt a b iha ihb =>
    rintro p j (h | h)
    · exact iha p j h
    · exact ihb p j h
  | star a ih => exact ih.comp (forwards_matches text a).reflTransGen

theorem isNullable_iff (text : List Char) (r : Node) (p : Nat) :
    r.isNullable (gapAt text p) = true ↔ r.Matches text p p := by
  induction r with
  | empty => simp [isNullable, Matches]
  | look a => simp [isNullable, Matches]
  | leaf marked s => simp [isNullable, Matches]
  | cat a b iha ihb =>
    rw [Matches, (forwards_matches text a).comp_self_iff (forwards_matches text b), ← iha, ← ihb]
    simp [isNullable]
  | alt a b iha ihb => simp [isNullable, Matches, iha, ihb]
  | star a => exact iff_of_true rfl .refl

theorem isComplete_iff (text : List Char) (r : Node) (p : Nat) :
    r.isComplete (gapAt text p) = true ↔ r.Continues text p p := by
  induction r with
  | empty | look => simp [isComplete, Continues]
  | leaf marked s => simp [isComplete, Continues]
  | cat a b iha ihb =>
    have hcomp := (forwards_continues text a).comp_self_iff (i := p) (forwards_matches text b)
    simp only [isComplete, Continues, hcomp, Bool.or_eq_true, Bool.and_eq_true, iha, ihb,
      isNullable_iff]
  | alt a b iha ihb => simp [isComplete, Continues, iha, ihb]
  | star a ih =>
    have hcomp := (forwards_continues text a).comp_self_iff (i := p)
      (forwards_matches text a).reflTransGen
    rw [Continues, hcomp, ← ih]
    exact (and_iff_left ReflTransGen.refl).symm

@[simp] theorem matches_shift (text : List Char) (g : Gap) (c : Char) (enter : Bool) (r : Node) :
    (r.shift g c enter).Matches text = r.Matches text := by
  induction r generalizing enter with
  | empty | look | leaf => rfl
  | cat a b iha ihb => simp only [shift, Matches, iha, ihb]
  | alt a b iha ihb => simp only [shift, Matches, iha, ihb]
  | star a ih => simp only [shift, Matches, ih]

/-- What goes on behind a character starts with a part that has read it. -/
theorem comp_shift_iff {a : Node} (enter : Bool) (h : ∀ k, p < k →
      ((a.shift (gapAt text p) c enter).Continues text (p + 1) k ↔ R p k)) :
    Comp ((a.shift (gapAt text p) c enter).Continues text) S (p + 1) j ↔
      ∃ k, p < k ∧ R p k ∧ S k j := by
  refine exists_congr fun k => ⟨?_, ?_⟩
  · rintro ⟨hk, hrest⟩
    have hpk := forwards_continues text _ _ _ hk
    have hlt : p < k := by omega
    exact ⟨hlt, (h k hlt).mp hk, hrest⟩
  · rintro ⟨hlt, hk, hrest⟩
    exact ⟨(h k hlt).mpr hk, hrest⟩

/-- Reading a character moves the marks on: behind it stands what was marked before, and what a
match may start with here. -/
theorem continues_shift (hc : text[p]? = some c) (r : Node) (enter : Bool) (hj : p < j) :
    (r.shift (gapAt text p) c enter).Continues text (p + 1) j ↔
      (enter = true ∧ r.Matches text p j) ∨ r.Continues text p j := by
  induction r generalizing enter j with
  | empty =>
    refine ⟨False.elim, ?_⟩
    rintro (⟨-, rfl⟩ | hnone)
    · exact absurd hj (Nat.lt_irrefl _)
    · exact hnone
  | look a =>
    refine ⟨False.elim, ?_⟩
    rintro (⟨-, rfl, -⟩ | hnone)
    · exact absurd hj (Nat.lt_irrefl _)
    · exact hnone
  | leaf marked s =>
    simp only [shift, Continues, Matches, hc, Bool.and_eq_true, Option.some.injEq]
    constructor
    · rintro ⟨⟨henter, hcovers⟩, rfl⟩
      exact Or.inl ⟨henter, rfl, c, rfl, hcovers⟩
    · rintro (⟨henter, rfl, _, rfl, hcovers⟩ | ⟨-, rfl⟩)
      · exact ⟨⟨henter, hcovers⟩, rfl⟩
      · exact absurd hj (Nat.lt_irrefl _)
  | cat a b iha ihb =>
    have hfront := comp_shift_iff (S := b.Matches text) (j := j)
      (R := fun p k => (enter = true ∧ a.Matches text p k) ∨ a.Continues text p k) enter
      fun k hk => iha enter hk
    simp only [shift, Continues, Matches, matches_shift, hfront, ihb _ hj, Bool.or_eq_true,
      Bool.and_eq_true, isNullable_iff, isComplete_iff, (forwards_matches text a).comp_iff,
      (forwards_continues text a).comp_iff]
    constructor
    · rintro ((⟨⟨henter, ha⟩ | ha, hb⟩ | hb) | ⟨k, hk, ⟨henter, ha⟩ | ha, hb⟩)
      · exact Or.inl ⟨henter, Or.inl ⟨ha, hb⟩⟩
      · exact Or.inr (Or.inr (Or.inl ⟨ha, hb⟩))
      · exact Or.inr (Or.inl hb)
      · exact Or.inl ⟨henter, Or.inr ⟨k, hk, ha, hb⟩⟩
      · exact Or.inr (Or.inr (Or.inr ⟨k, hk, ha, hb⟩))
    · rintro (⟨henter, ⟨ha, hb⟩ | ⟨k, hk, ha, hb⟩⟩ | hb | ⟨ha, hb⟩ | ⟨k, hk, ha, hb⟩)
      · exact Or.inl (Or.inl ⟨Or.inl ⟨henter, ha⟩, hb⟩)
      · exact Or.inr ⟨k, hk, Or.inl ⟨henter, ha⟩, hb⟩
      · exact Or.inl (Or.inr hb)
      · exact Or.inl (Or.inl ⟨Or.inr ha, hb⟩)
      · exact Or.inr ⟨k, hk, Or.inr ha, hb⟩
  | alt a b iha ihb =>
    simp only [shift, Continues, Matches, iha enter hj, ihb enter hj]
    tauto
  | star a ih =>
    have hround := comp_shift_iff (S := ReflTransGen (a.Matches text)) (j := j)
      (R := fun p k => ((enter = true ∨ a.Continues text p p) ∧ a.Matches text p k) ∨
        a.Continues text p k) (enter || a.isComplete (gapAt text p))
      fun k hk => by rw [ih _ hk, Bool.or_eq_true, isComplete_iff text a p]
    simp only [shift, Continues, Matches, matches_shift, hround,
      (forwards_continues text a).comp_iff, (forwards_matches text a).rounds_iff hj]
    constructor
    · rintro ⟨k, hk, ⟨henter | hmark, ha⟩ | ha, hrest⟩
      · exact Or.inl ⟨henter, k, hk, ha, hrest⟩
      · exact Or.inr (Or.inl ⟨hmark, k, hk, ha, hrest⟩)
      · exact Or.inr (Or.inr ⟨k, hk, ha, hrest⟩)
    · rintro (⟨henter, k, hk, ha, hrest⟩ | ⟨hmark, k, hk, ha, hrest⟩ | ⟨k, hk, ha, hrest⟩)
      · exact ⟨k, hk, Or.inl ⟨Or.inl henter, ha⟩, hrest⟩
      · exact ⟨k, hk, Or.inl ⟨Or.inr hmark, ha⟩, hrest⟩
      · exact ⟨k, hk, Or.inr ha, hrest⟩

/-- A search that has come to a position finds the matches from there on and what is left of those
that have come to a mark. -/
theorem searchFrom_iff (r : Node) (hp : p ≤ text.length) :
    searchFrom (charBefore text p) r (text.drop p) = true ↔
      (∃ i j, p ≤ i ∧ i ≤ text.length ∧ r.Matches text i j) ∨ ∃ j, r.Continues text p j := by
  generalize hcs : text.drop p = cs
  induction cs generalizing p r with
  | nil =>
    have hend : p = text.length := by
      have hlength := congrArg List.length hcs
      rw [List.length_drop, List.length_nil] at hlength
      omega
    have hgap : (⟨charBefore text p, none⟩ : Gap) = gapAt text p := by
      rw [gapAt, List.getElem?_eq_none (by omega)]
    rw [searchFrom, hgap, Bool.or_eq_true, isNullable_iff, isComplete_iff]
    constructor
    · rintro (h | h)
      · exact Or.inl ⟨p, p, Nat.le_refl p, hp, h⟩
      · exact Or.inr ⟨p, h⟩
    · rintro (⟨i, j, hi, hin, h⟩ | ⟨j, h⟩)
      · have hij := forwards_matches text r i j h
        obtain rfl : i = p := by omega
        obtain rfl : j = i := by omega
        exact Or.inl h
      · have hpj := forwards_continues text r p j h
        obtain rfl : j = p := by omega
        exact Or.inr h
  | cons c cs ih =>
    have hc : text[p]? = some c := by
      rw [← List.head?_drop, hcs]
      rfl
    have hlt : p < text.length := (List.getElem?_eq_some_iff.mp hc).1
    have hrest : text.drop (p + 1) = cs := by
      rw [← List.tail_drop, hcs]
      rfl
    have hgap : (⟨charBefore text p, some c⟩ : Gap) = gapAt text p := by rw [gapAt, hc]
    have hbefore : some c = charBefore text (p + 1) := hc.symm
    rw [searchFrom, hgap, hbefore, Bool.or_eq_true, Bool.or_eq_true, isNullable_iff,
      isComplete_iff, ih _ hlt hrest]
    simp only [matches_shift]
    have hshift {j : Nat} (hj : p < j) := continues_shift hc r true hj
    constructor
    · rintro ((h | h) | ⟨i, j, hi, hin, h⟩ | ⟨j, h⟩)
      · exact Or.inl ⟨p, p, Nat.le_refl p, hp, h⟩
      · exact Or.inr ⟨p, h⟩
      · exact Or.inl ⟨i, j, by omega, hin, h⟩
      · have hj := forwards_continues text _ _ _ h
        rcases (hshift (show p < j by omega)).mp h with ⟨-, h⟩ | h
        · exact Or.inl ⟨p, j, Nat.le_refl p, hp, h⟩
        · exact Or.inr ⟨j, h⟩
    · rintro (⟨i, j, hi, hin, h⟩ | ⟨j, h⟩)
      · by_cases hlater : p < i
        · exact Or.inr (Or.inl ⟨i, j, hlater, hin, h⟩)
        · obtain rfl : i = p := by omega
          have hij := forwards_matches text r i j h
          by_cases hreads : i < j
          · exact Or.inr (Or.inr ⟨j, (hshift hreads).mpr (Or.inl ⟨rfl, h⟩)⟩)
          · obtain rfl : j = i := by omega
            exact Or.inl (Or.inl h)
      · have hpj := forwards_continues text r p j h
        by_cases hreads : p < j
        · exact Or.inr (Or.inr ⟨j, (hshift hreads).mpr (Or.inr h)⟩)
        · obtain rfl : j = p := by omega
          exact Or.inl (Or.inr h)

/-- No match has come to a mark. -/
def Unmarked (text : List Char) (r : Node) : Prop := ∀ p j, ¬ r.Continues text p j

/-- Without marks, a search finds a match if there is one anywhere. -/
theorem search_iff (r : Node) (hr : r.Unmarked text) :
    r.search text = true ↔ ∃ i j, i ≤ text.length ∧ r.Matches text i j := by
  have h := searchFrom_iff r (Nat.zero_le text.length)
  have hnone : ¬ ∃ j, r.Continues text 0 j := by
    rintro ⟨j, hj⟩
    exact hr 0 j hj
  simpa only [search, charBefore, List.drop_zero, Nat.zero_le, true_and, hnone, or_false] using h

end Node

end TagSieve.Regex
