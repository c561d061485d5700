import TagSieve.Proofs.Evaluation.Meaning
import TagSieve.Proofs.Evaluation.Verdict

/-! Comparisons and their complements. Where both sides have values and these all have an order, a
comparison fails just where the complement of its operator holds with "some value" and "every value"
exchanged. Where a side has no value both fail, and against `undef` the operator alone decides. -/
namespace TagSieve

variable {v : View} {op : Operator} {x y : Value} {r : Resolved} {p q : Quantified}
  {test test' : Scalar → Bool}

/-- The operator that holds of two values with an order where this one does not. -/
def Operator.complement : Operator → Operator
  | equal => notEqual
  | notEqual => equal
  | less => greaterEqual
  | greaterEqual => less
  | greater => lessEqual
  | lessEqual => greater
  | matching => notMatching
  | notMatching => matching

/-- Some value for every value, and the other way round. -/
def Selector.dual : Selector → Selector
  | any => all
  | all => any
  | t => t

def Value.dual : Value → Value
  | tag key => tag ⟨key.name, key.selector.dual⟩
  | x => x

def Operand.dual (o : Operand) : Operand := ⟨o.value.dual, o.span⟩

@[simp] theorem Operand.value_dual (o : Operand) : o.dual.value = o.value.dual := rfl

def Resolved.dual : Resolved → Resolved
  | any values => all values
  | all values => any values
  | r => r

theorem Operator.isMatch_complement (op : Operator) : op.complement.isMatch = op.isMatch := by
  cases op <;> rfl

theorem Operator.holds_complement (hop : op.isMatch = false) (o : Ordering) :
    op.complement.holds (some o) = !op.holds (some o) := by
  cases op with
  | matching | notMatching => cases hop
  | _ => cases o <;> rfl

theorem Value.dual_ne_undef (hx : x ≠ .undef) : x.dual ≠ .undef := by
  cases x with
  | undef => exact absurd rfl hx
  | _ => nofun

theorem Domain.of_dual (x y : Value) : Domain.of x.dual y.dual = Domain.of x y := by
  cases x <;> cases y <;> rfl

namespace Resolved

theorem isUndefined_dual (r : Resolved) : r.dual.isUndefined = r.isUndefined := by
  cases r <;> rfl

/-- Only the values of an operand are tested. -/
theorem satisfies_congr (h : ∀ s ∈ r.scalars, test s = test' s) :
    r.satisfies test = r.satisfies test' := by
  have htext {values : List String} (h : ∀ s ∈ values.map Scalar.text, test s = test' s)
      (value : String) (hvalue : value ∈ values) :
      test (.text value) = true ↔ test' (.text value) = true := by
    rw [h _ (List.mem_map_of_mem hvalue)]
  cases r with
  | undefined => rfl
  | one s => exact h s List.mem_cons_self
  | any values =>
    rw [Bool.eq_iff_iff]
    simp only [satisfies, List.any_eq_true]
    exact exists_congr fun value => and_congr_right (htext h value)
  | all values =>
    rw [Bool.eq_iff_iff]
    simp only [satisfies, List.all_eq_true]
    exact forall₂_congr (htext h)

/-- De Morgan's laws for the values of an operand. -/
theorem satisfies_dual (hr : r.isUndefined = false) (test : Scalar → Bool) :
    (r.dual.satisfies fun s => !test s) = !r.satisfies test := by
  cases r with
  | undefined => cases hr
  | one s => rfl
  | any values => exact List.not_any_eq_all_not.symm
  | all values => exact List.not_all_eq_any_not.symm

theorem scalars_dual (r : Resolved) : r.dual.scalars = r.scalars := by
  cases r <;> rfl

theorem Denotes.values_eq (h : r.Denotes (some q)) : q.values = r.scalars := by
  cases h <;> rfl

end Resolved

namespace View

theorem select_dual (values : List String) (t : Selector) :
    select values t.dual = (select values t).dual := by
  cases t with
  | nth n =>
    simp only [Selector.dual, select]
    cases values[n.toNat]? <;> rfl
  | _ => rfl

theorem resolve_dual (v : View) (x : Value) :
    (v.resolve x.dual).result = (v.resolve x).result.dual := by
  cases x with
  | tag key =>
    simp only [Value.dual, resolve, resolveTag, select_dual]
    by_cases hempty : (v.lookup key.name).isEmpty = true <;> simp [hempty, Resolved.dual]
  | _ => rfl

theorem resolve_of_denote (h : v.denote x = some q) :
    (v.resolve x).result.isUndefined = false ∧ (v.resolve x).result.scalars = q.values := by
  have hdenotes := v.denotes_resolve x
  rw [h] at hdenotes
  have hundef := hdenotes.isUndefined
  exact ⟨by simpa using hundef, hdenotes.values_eq.symm⟩

theorem compareValues_of_undefined (op : Operator) (h : v.denote x = none ∨ v.denote y = none) :
    (v.compareValues op x y).result = false := by
  rw [result_compareValues]
  rcases h with hx | hy
  · have hundef := (v.denotes_resolve x).isUndefined.mpr hx
    simp [hundef]
  · have hundef := (v.denotes_resolve y).isUndefined.mpr hy
    simp [hundef]

theorem compareValues_dual (hop : op.isMatch = false) (hx : v.denote x = some p)
    (hy : v.denote y = some q)
    (horder : ∀ a ∈ p.values, ∀ b ∈ q.values, (Domain.of x y).compare? a b ≠ none) :
    (v.compareValues op.complement x.dual y.dual).result = !(v.compareValues op x y).result := by
  obtain ⟨hleft, hlvalues⟩ := resolve_of_denote hx
  obtain ⟨hright, hrvalues⟩ := resolve_of_denote hy
  rw [← hlvalues, ← hrvalues] at horder
  rw [result_compareValues, result_compareValues, resolve_dual, resolve_dual, Domain.of_dual]
  generalize (v.resolve x).result = l at hleft horder ⊢
  generalize (v.resolve y).result = r at hright horder ⊢
  -- One of De Morgan's laws for each side, the inner one first.
  have hinner : ∀ a ∈ l.scalars,
      (r.dual.satisfies fun b => op.complement.holds ((Domain.of x y).compare? a b)) =
        !r.satisfies fun b => op.holds ((Domain.of x y).compare? a b) := by
    intro a ha
    rw [← Resolved.satisfies_dual hright]
    apply Resolved.satisfies_congr
    intro b hb
    rw [Resolved.scalars_dual] at hb
    obtain ⟨o, ho⟩ := Option.ne_none_iff_exists'.mp (horder a ha b hb)
    rw [ho]
    exact Operator.holds_complement hop o
  have houter : (l.dual.satisfies fun a => r.dual.satisfies fun b =>
      op.complement.holds ((Domain.of x y).compare? a b)) =
        !l.satisfies fun a => r.satisfies fun b => op.holds ((Domain.of x y).compare? a b) := by
    rw [← Resolved.satisfies_dual hleft]
    apply Resolved.satisfies_congr
    intro a ha
    rw [Resolved.scalars_dual] at ha
    exact hinner a ha
  rw [houter, Resolved.isUndefined_dual, Resolved.isUndefined_dual, hleft, hright]
  rfl

theorem compareUndef_complement (hop : op.isMatch = false) (x : Value) (defined : Ordering) :
    (v.compareUndef op.complement x defined).result = !(v.compareUndef op x defined).result :=
  Operator.holds_complement hop _

theorem comparison_complement_of_undef (hop : op.isMatch = false) (h : x = .undef ∨ y = .undef) :
    (v.comparison op.complement x y).result = !(v.comparison op x y).result := by
  by_cases hx : x = .undef
  · subst hx
    exact compareUndef_complement hop y .gt
  · obtain rfl := h.resolve_left hx
    rw [comparison_undef_right, comparison_undef_right]
    exact compareUndef_complement hop x .lt

end View

namespace Expr

/-- A comparison of values that have an order is negated by the complement of its operator with the
duals of its sides. It is false for every operator if a side has no value, and a comparison with
`undef` is negated by the complement alone. -/
theorem complements (v : View) (hop : op.isMatch = false) (l r : Operand) (s s' : Span) :
    (∀ p q, v.denote l.value = some p → v.denote r.value = some q →
      (∀ a ∈ p.values, ∀ b ∈ q.values, (Domain.of l.value r.value).compare? a b ≠ none) →
      (comparison s' op.complement l.dual r.dual).holds v = !(comparison s op l r).holds v) ∧
    (l.value ≠ .undef → r.value ≠ .undef → v.denote l.value = none ∨ v.denote r.value = none →
      (comparison s op l r).holds v = false) ∧
    (l.value = .undef ∨ r.value = .undef →
      (comparison s' op.complement l r).holds v = !(comparison s op l r).holds v) := by
  have hop' : op.complement.isMatch = false := by rw [Operator.isMatch_complement, hop]
  rw [holds_comparison v hop', holds_comparison v hop', holds_comparison v hop]
  refine ⟨?_, ?_, View.comparison_complement_of_undef hop⟩
  · intro p q hp hq horder
    have hl : l.value ≠ .undef := by
      intro hundef
      rw [hundef] at hp
      cases hp
    have hr : r.value ≠ .undef := by
      intro hundef
      rw [hundef] at hq
      cases hq
    rw [View.comparison_of_ne_undef op hl hr, Operand.value_dual, Operand.value_dual,
      View.comparison_of_ne_undef _ (Value.dual_ne_undef hl) (Value.dual_ne_undef hr)]
    exact View.compareValues_dual hop hp hq horder
  · intro hl hr h
    rw [View.comparison_of_ne_undef op hl hr]
    exact View.compareValues_of_undefined op h

/-- A view with two ratings and one artist. -/
def ratedView : View :=
  ⟨"a.flac", "libFLAC", fun key =>
    if key = "rating" then ["1", "2"] else if key = "artist" then ["Enya"] else []⟩

/-- The tag key `rating` with a selector. -/
def rating (t : Selector) : Operand := ⟨.tag ⟨"rating", t⟩, ⟨0, 7⟩⟩

/-- The literal `1.5`. -/
def oneAndHalf : Operand := ⟨.float (.ofRatio false 3 2), ⟨11, 14⟩⟩

/-- One of the two ratings is below `1.5`, so they do not both reach it. There is no third one. -/
theorem complements_rating :
    ((comparison ⟨0, 14⟩ .less (rating .any) oneAndHalf).holds ratedView = true ∧
      (comparison ⟨0, 14⟩ .greaterEqual (rating .all) oneAndHalf).holds ratedView = false) ∧
    (ratedView.denote (rating (.nth 2)).value = none ∧
      (comparison ⟨0, 14⟩ .less (rating (.nth 2)) oneAndHalf).holds ratedView = false) ∧
    (comparison ⟨0, 16⟩ .less (rating (.nth 2)) ⟨.undef, ⟨11, 16⟩⟩).holds ratedView = false ∧
    (comparison ⟨0, 16⟩ .greaterEqual (rating (.nth 2)) ⟨.undef, ⟨11, 16⟩⟩).holds ratedView =
      true := by
  have hop : Operator.less.isMatch = false := rfl
  obtain ⟨hordered, -, -⟩ :=
    complements ratedView hop (rating .any) oneAndHalf ⟨0, 14⟩ ⟨0, 14⟩
  obtain ⟨-, hundefined, -⟩ :=
    complements ratedView hop (rating (.nth 2)) oneAndHalf ⟨0, 14⟩ ⟨0, 14⟩
  obtain ⟨-, -, hundef⟩ := complements ratedView hop (rating (.nth 2))
    ⟨.undef, ⟨11, 16⟩⟩ ⟨0, 16⟩ ⟨0, 16⟩
  have hratings : ratedView.denote (rating .any).value =
      some (.texts .some ["1", "2"] (List.cons_ne_nil _ _)) := rfl
  have hliteral : ratedView.denote oneAndHalf.value =
      some (.single (.float (.ofRatio false 3 2))) := rfl
  have horder : ∀ a ∈ ["1", "2"].map Scalar.text, ∀ b ∈ [Scalar.float (.ofRatio false 3 2)],
      Domain.float.compare? a b ≠ none := by decide +kernel
  have hless : (comparison ⟨0, 14⟩ .less (rating .any) oneAndHalf).holds ratedView = true := by
    decide +kernel
  have hnone : ratedView.denote (rating (.nth 2)).value = none := rfl
  have hbelow : (comparison ⟨0, 16⟩ .less (rating (.nth 2)) ⟨.undef, ⟨11, 16⟩⟩).holds ratedView =
      false := by decide +kernel
  refine ⟨⟨hless, ?_⟩, ⟨hnone, hundefined nofun nofun (Or.inl hnone)⟩, hbelow, ?_⟩
  · have hdual := hordered _ _ hratings hliteral horder
    rw [hless] at hdual
    exact hdual
  · have hcomplement := hundef (Or.inr rfl)
    rw [hbelow] at hcomplement
    exact hcomplement

end Expr

end TagSieve
