import TagSieve.Proofs.Evaluation.Duality

/-! The selectors of a tag key. Any value is the disjunction and every value the conjunction of the
single positions, and selectors that pick the same values can be exchanged for one another. -/
namespace TagSieve

variable {v : View} {op : Operator} {x x' y y' : Value} {r r' r'' : Resolved} {e e' : Expr}
  {name value : String} {t t' : Selector} {values : List String} {test : Scalar → Bool}
  {R R' : Value → Value → Prop}

/-- Two operands that pass the same tests. -/
def Resolved.Alike (r r' : Resolved) : Prop :=
  r.isUndefined = r'.isUndefined ∧ ∀ test, r.satisfies test = r'.satisfies test

namespace Resolved.Alike

theorem refl (r : Resolved) : r.Alike r := ⟨rfl, fun _ => rfl⟩

theorem symm (h : r.Alike r') : r'.Alike r := ⟨h.1.symm, fun test => (h.2 test).symm⟩

theorem trans (h : r.Alike r') (h' : r'.Alike r'') : r.Alike r'' :=
  ⟨h.1.trans h'.1, fun test => (h.2 test).trans (h'.2 test)⟩

end Resolved.Alike

theorem Value.tag_ne_undef (key : TagKey) : tag key ≠ .undef := by
  intro h
  cases h

theorem Domain.of_tag (key key' : TagKey) (y : Value) : of (.tag key) y = of (.tag key') y := by
  cases y <;> rfl

namespace View

/-- Two values that no condition tells apart: one value, or two keys of tags that pass the same
tests. -/
inductive Alike (v : View) : Value → Value → Prop
  | refl (x : Value) : Alike v x x
  | tag (key key' : TagKey) (h : (v.resolveTag key).result.Alike (v.resolveTag key').result) :
    Alike v (.tag key) (.tag key')

namespace Alike

theorem resolve (h : v.Alike x x') : (v.resolve x).result.Alike (v.resolve x').result := by
  cases h with
  | refl => exact .refl _
  | tag key key' h => exact h

theorem domain (hx : v.Alike x x') (hy : v.Alike y y') : Domain.of x y = Domain.of x' y' := by
  cases hx with
  | tag =>
    cases hy with
    | tag => rfl
    | refl y => exact Domain.of_tag _ _ y
  | refl x =>
    cases hy with
    | refl => rfl
    | tag => cases x <;> rfl

theorem ne_undef (h : v.Alike x x') (hx : x ≠ .undef) : x' ≠ .undef := by
  cases h with
  | refl => exact hx
  | tag => exact Value.tag_ne_undef _

theorem eq_undef (h : v.Alike .undef x) : x = .undef := by
  cases h
  rfl

end Alike

theorem compareUndef_congr (h : v.Alike x x') (op : Operator) (defined : Ordering) :
    (v.compareUndef op x defined).result = (v.compareUndef op x' defined).result := by
  simp only [compareUndef, Traced.result_map, h.resolve.1]

theorem compareValues_congr (hx : v.Alike x x') (hy : v.Alike y y') (op : Operator) :
    (v.compareValues op x y).result = (v.compareValues op x' y').result := by
  simp only [result_compareValues, hx.resolve.1, hx.resolve.2, hy.resolve.1, hy.resolve.2,
    hx.domain hy]

theorem comparison_congr (hx : v.Alike x x') (hy : v.Alike y y') (op : Operator) :
    (v.comparison op x y).result = (v.comparison op x' y').result := by
  by_cases hundef : x = .undef
  · subst hundef
    obtain rfl := hx.eq_undef
    exact compareUndef_congr hy op .gt
  · by_cases hundef' : y = .undef
    · subst hundef'
      obtain rfl := hy.eq_undef
      rw [comparison_undef_right, comparison_undef_right]
      exact compareUndef_congr hx op .lt
    · rw [comparison_of_ne_undef op hundef hundef',
        comparison_of_ne_undef op (hx.ne_undef hundef) (hy.ne_undef hundef')]
      exact compareValues_congr hx hy op

theorem matchAgainst_congr (h : v.Alike x x') (op : Operator) (p : Pattern) :
    (v.matchAgainst op p x).result = (v.matchAgainst op p x').result := by
  simp only [matchAgainst, Traced.result_map, h.resolve.2]

theorem patternMatch_congr (hx : v.Alike x x') (hy : v.Alike y y') (op : Operator) :
    (v.patternMatch op x y).result = (v.patternMatch op x' y').result := by
  cases hx with
  | tag key key' h =>
    cases hy with
    | tag => rfl
    | refl y =>
      cases y with
      | regex p => exact matchAgainst_congr (.tag key key' h) op p
      | _ => rfl
  | refl x =>
    cases x with
    | regex p => exact matchAgainst_congr hy op p
    | _ =>
      cases hy with
      | refl => rfl
      | tag => rfl

end View

namespace Expr

/-- The second tree is the first one with some of its operands exchanged for others. -/
inductive Exchanges (R : Value → Value → Prop) : Expr → Expr → Prop
  | not {s s' : Span} {e e' : Expr} (h : Exchanges R e e') : Exchanges R (.not s e) (.not s' e')
  | logical {s s' : Span} {op : Connective} {l l' r r' : Expr} (hl : Exchanges R l l')
      (hr : Exchanges R r r') : Exchanges R (.logical s op l r) (.logical s' op l' r')
  | comparison {s s' : Span} {op : Operator} {l l' r r' : Operand} (hl : R l.value l'.value)
      (hr : R r.value r'.value) : Exchanges R (.comparison s op l r) (.comparison s' op l' r')

theorem Exchanges.mono (h : e.Exchanges R e') (hR : ∀ x x', R x x' → R' x x') :
    e.Exchanges R' e' := by
  induction h with
  | not _ ih => exact .not ih
  | logical _ _ ihl ihr => exact .logical ihl ihr
  | comparison hl hr => exact .comparison (hR _ _ hl) (hR _ _ hr)

theorem holds_of_exchanges (h : e.Exchanges v.Alike e') : e.holds v = e'.holds v := by
  induction h with
  | not _ ih => rw [holds_not, holds_not, ih]
  | logical _ _ ihl ihr => rw [holds_logical, holds_logical, ihl, ihr]
  | @comparison s s' op l l' r r' hl hr =>
    cases hop : op.isMatch with
    | true =>
      rw [holds_match v hop, holds_match v hop]
      exact View.patternMatch_congr hl hr op
    | false =>
      rw [holds_comparison v hop, holds_comparison v hop]
      exact View.comparison_congr hl hr op

end Expr

namespace View

theorem resolveTag_of_nil (h : v.lookup name = []) (t : Selector) :
    (v.resolveTag ⟨name, t⟩).result = .undefined := by
  simp [resolveTag, h]

theorem resolveTag_of_ne_nil (h : v.lookup name ≠ []) (t : Selector) :
    (v.resolveTag ⟨name, t⟩).result = select (v.lookup name) t := by
  simp [resolveTag, h]

theorem select_nth {i : UInt64} (hi : i.toNat < values.length) :
    select values (.nth i) = .one (.text values[i.toNat]) := by
  simp only [select, List.getElem?_eq_getElem hi]

/-- The selectors that pick the only value of a key. -/
def singleSelectors : List Selector := [.unset, .join, .any, .all, .nth 0]

theorem select_alike_one (ht : t ∈ singleSelectors) (a : String) :
    (select [a] t).Alike (.one (.text a)) := by
  have hjoin : joinSeparator.intercalate [a] = a := by simp
  simp only [singleSelectors, List.mem_cons, List.not_mem_nil, or_false] at ht
  rcases ht with rfl | rfl | rfl | rfl | rfl
  · simp only [select, hjoin]
    exact .refl _
  · simp only [select, hjoin]
    exact .refl _
  · exact ⟨rfl, fun test => by simp [select, Resolved.satisfies]⟩
  · exact ⟨rfl, fun test => by simp [select, Resolved.satisfies]⟩
  · exact .refl _

/-- One value, or one key with two selectors that pick the same values of it: `*` may be written or
left out, and all selectors but other positions pick an only value. -/
inductive SameValues (v : View) : Value → Value → Prop
  | refl (x : Value) : SameValues v x x
  | joined (name : String) {t t' : Selector} (ht : t ∈ [Selector.unset, .join])
      (ht' : t' ∈ [Selector.unset, .join]) : SameValues v (.tag ⟨name, t⟩) (.tag ⟨name, t'⟩)
  | single (name : String) {t t' : Selector} (hone : (v.lookup name).length = 1)
      (ht : t ∈ singleSelectors) (ht' : t' ∈ singleSelectors) :
    SameValues v (.tag ⟨name, t⟩) (.tag ⟨name, t'⟩)

theorem SameValues.alike (h : v.SameValues x x') : v.Alike x x' := by
  cases h with
  | refl => exact .refl _
  | @joined name t t' ht ht' =>
    have hjoin (t : Selector) (ht : t ∈ [Selector.unset, .join]) :
        v.resolveTag ⟨name, t⟩ = v.resolveTag ⟨name, .join⟩ := by
      simp only [List.mem_cons, List.not_mem_nil, or_false] at ht
      rcases ht with rfl | rfl <;> rfl
    refine .tag _ _ ?_
    rw [hjoin t ht, hjoin t' ht']
    exact .refl _
  | @single name t t' hone ht ht' =>
    obtain ⟨a, ha⟩ := List.length_eq_one_iff.mp hone
    have hne : v.lookup name ≠ [] := by simp [ha]
    refine .tag _ _ ?_
    rw [resolveTag_of_ne_nil hne, resolveTag_of_ne_nil hne, ha]
    exact (select_alike_one ht a).trans (select_alike_one ht' a).symm

/-- Every value has a position, if positions are enough. -/
theorem exists_position (hsize : values.length ≤ UInt64.size) (hvalue : value ∈ values) :
    ∃ i : UInt64, ∃ h : i.toNat < values.length, values[i.toNat] = value := by
  obtain ⟨n, hn, rfl⟩ := List.mem_iff_getElem.mp hvalue
  have htoNat : (UInt64.ofNat n).toNat = n := UInt64.toNat_ofNat_of_lt' (by omega)
  exact ⟨UInt64.ofNat n, by omega, by simp only [htoNat]⟩

theorem satisfies_select_nth {i : UInt64} (hi : i.toNat < values.length) (test : Scalar → Bool) :
    (select values (.nth i)).satisfies test = test (.text values[i.toNat]) := by
  rw [select_nth hi]
  rfl

theorem select_any_iff (hsize : values.length ≤ UInt64.size) (test : Scalar → Bool) :
    (select values .any).satisfies test = true ↔
      ∃ i : UInt64, i.toNat < values.length ∧ (select values (.nth i)).satisfies test = true := by
  constructor
  · intro h
    obtain ⟨value, hvalue, htest⟩ := List.any_eq_true.mp h
    obtain ⟨i, hi, rfl⟩ := exists_position hsize hvalue
    exact ⟨i, hi, (satisfies_select_nth hi test).trans htest⟩
  · rintro ⟨i, hi, htest⟩
    rw [satisfies_select_nth hi] at htest
    exact List.any_eq_true.mpr ⟨_, List.getElem_mem hi, htest⟩

theorem select_all_iff (hsize : values.length ≤ UInt64.size) (test : Scalar → Bool) :
    (select values .all).satisfies test = true ↔
      ∀ i : UInt64, i.toNat < values.length → (select values (.nth i)).satisfies test = true := by
  constructor
  · intro h i hi
    rw [satisfies_select_nth hi]
    exact List.all_eq_true.mp h _ (List.getElem_mem hi)
  · intro h
    apply List.all_eq_true.mpr
    intro value hvalue
    obtain ⟨i, hi, rfl⟩ := exists_position hsize hvalue
    exact (satisfies_select_nth hi test).symm.trans (h i hi)

theorem isUndefined_select_nth {i : UInt64} (hi : i.toNat < values.length) :
    (select values (.nth i)).isUndefined = false := by
  rw [select_nth hi]
  rfl

/-- A test that does not look at the values. -/
theorem satisfies_const (hne : values ≠ []) (ht : (select values t).isUndefined = false)
    (b : Bool) : ((select values t).satisfies fun _ => b) = b := by
  obtain ⟨first, rest, rfl⟩ := List.exists_cons_of_ne_nil hne
  cases t with
  | nth n =>
    simp only [select] at ht ⊢
    cases hvalue : (first :: rest)[n.toNat]? with
    | none => simp [hvalue, Resolved.isUndefined] at ht
    | some value => rfl
  | unset | join => rfl
  | any | all => cases b <;> simp [select, Resolved.satisfies]

/-- The other side of a comparison is one test of the values of a key, whatever selects them. -/
theorem exists_test_comparison (hne : v.lookup name ≠ []) (op : Operator) (y : Value) :
    ∃ test : Scalar → Bool, ∀ t, (select (v.lookup name) t).isUndefined = false →
      (v.comparison op (.tag ⟨name, t⟩) y).result = (select (v.lookup name) t).satisfies test := by
  by_cases hy : y = .undef
  · subst hy
    refine ⟨fun _ => op.holds (some .lt), fun t ht => ?_⟩
    rw [satisfies_const hne ht]
    simp only [comparison_undef_right, compareUndef, Traced.result_map, resolve,
      resolveTag_of_ne_nil hne, ht]
    rfl
  · have hresult (t : Selector) (ht : (select (v.lookup name) t).isUndefined = false) :
        (v.comparison op (.tag ⟨name, t⟩) y).result = (!(v.resolve y).result.isUndefined &&
          (select (v.lookup name) t).satisfies fun s => (v.resolve y).result.satisfies fun s' =>
            op.holds ((Domain.of (.tag ⟨name, .unset⟩) y).compare? s s')) := by
      rw [comparison_of_ne_undef op (Value.tag_ne_undef _) hy, result_compareValues, resolve,
        resolveTag_of_ne_nil hne, ht, Domain.of_tag ⟨name, t⟩ ⟨name, .unset⟩]
      rfl
    cases hundef : (v.resolve y).result.isUndefined with
    | true =>
      refine ⟨fun _ => false, fun t ht => ?_⟩
      rw [hresult t ht, satisfies_const hne ht, hundef]
      rfl
    | false =>
      refine ⟨fun s => (v.resolve y).result.satisfies fun s' =>
        op.holds ((Domain.of (.tag ⟨name, .unset⟩) y).compare? s s'), fun t ht => ?_⟩
      rw [hresult t ht, hundef]
      rfl

theorem exists_test_matching (hne : v.lookup name ≠ []) (y : Value) :
    ∃ test : Scalar → Bool, ∀ t, (select (v.lookup name) t).isUndefined = false →
      (v.patternMatch .matching (.tag ⟨name, t⟩) y).result =
        (select (v.lookup name) t).satisfies test := by
  cases y with
  | regex p =>
    refine ⟨fun s => p.isMatch s.toText, fun t _ => ?_⟩
    simp only [patternMatch, matchAgainst, Traced.result_map, resolve, resolveTag_of_ne_nil hne]
    exact Bool.false_xor _
  | _ =>
    refine ⟨fun _ => false, fun t ht => ?_⟩
    rw [satisfies_const hne ht]
    rfl

end View

namespace Expr

theorem exists_test (hop : op ≠ .notMatching) (hne : v.lookup name ≠ []) (s a : Span)
    (r : Operand) :
    ∃ test : Scalar → Bool, ∀ t, (View.select (v.lookup name) t).isUndefined = false →
      (comparison s op ⟨.tag ⟨name, t⟩, a⟩ r).holds v =
        (View.select (v.lookup name) t).satisfies test := by
  cases hmatch : op.isMatch with
  | true =>
    obtain rfl : op = .matching := by
      cases op with
      | matching => rfl
      | notMatching => exact absurd rfl hop
      | _ => cases hmatch
    simp only [holds_match v hmatch]
    exact View.exists_test_matching hne r.value
  | false =>
    simp only [holds_comparison v hmatch]
    exact View.exists_test_comparison hne op r.value

theorem holds_notMatching {p : Pattern} (l : Operand) {r : Operand} (hr : r.value = .regex p)
    (s : Span) :
    (comparison s .notMatching l r).holds v = !(comparison s .matching l r).holds v := by
  have hagainst (p : Pattern) (x : Value) : (v.matchAgainst .notMatching p x).result =
      !(v.matchAgainst .matching p x).result := by
    simp only [View.matchAgainst, Traced.result_map]
    cases (v.resolve x).result.satisfies fun s => p.isMatch s.toText <;> rfl
  rw [holds_match v rfl, holds_match v rfl, hr]
  cases l.value with
  | regex q => exact hagainst q _
  | _ => exact hagainst p _

theorem holds_of_nil (hnil : v.lookup name = []) {r : Operand}
    (hop : op = .matching ∨ op.isMatch = false ∧ r.value ≠ .undef) (s a : Span) (t : Selector) :
    (comparison s op ⟨.tag ⟨name, t⟩, a⟩ r).holds v = false := by
  have hundef : (v.resolve (.tag ⟨name, t⟩)).result = .undefined := View.resolveTag_of_nil hnil t
  rcases hop with rfl | ⟨hmatch, hr⟩
  · rw [holds_match v rfl]
    cases r.value with
    | regex p => simp [View.patternMatch, View.matchAgainst, hundef, Resolved.satisfies]
    | _ => rfl
  · rw [holds_comparison v hmatch, View.comparison_of_ne_undef op (Value.tag_ne_undef _) hr,
      View.result_compareValues, hundef]
    rfl

theorem holds_iff_positions (hop : op ≠ .notMatching) (hne : v.lookup name ≠ [])
    (hsize : (v.lookup name).length ≤ UInt64.size) (s a : Span) (r : Operand) :
    ((comparison s op ⟨.tag ⟨name, .any⟩, a⟩ r).holds v = true ↔
      ∃ i : UInt64, i.toNat < (v.lookup name).length ∧
        (comparison s op ⟨.tag ⟨name, .nth i⟩, a⟩ r).holds v = true) ∧
    ((comparison s op ⟨.tag ⟨name, .all⟩, a⟩ r).holds v = true ↔
      ∀ i : UInt64, i.toNat < (v.lookup name).length →
        (comparison s op ⟨.tag ⟨name, .nth i⟩, a⟩ r).holds v = true) := by
  obtain ⟨test, htest⟩ := exists_test hop hne s a r
  rw [htest .any rfl, htest .all rfl, View.select_any_iff hsize, View.select_all_iff hsize]
  constructor
  · refine exists_congr fun i => and_congr_right fun hi => ?_
    rw [htest (.nth i) (View.isUndefined_select_nth hi)]
  · refine forall₂_congr fun i hi => ?_
    rw [htest (.nth i) (View.isUndefined_select_nth hi)]

/-- The selectors agree with each other. Any value of a key passes if the value at some position
does, and every value if those at all positions do; a negated match exchanges the two. A key without
a value fails with every selector. Selectors that pick the same values give the same verdicts
anywhere. No list has more values than there are positions. -/
theorem selectors_agree (v : View) (op : Operator) (s a : Span) (name : String) (r : Operand) :
    let verdict (t : Selector) := (comparison s op ⟨.tag ⟨name, t⟩, a⟩ r).holds v
    let n := (v.lookup name).length
    let somewhere := ∃ i : UInt64, i.toNat < n ∧ verdict (.nth i) = true
    let everywhere := ∀ i : UInt64, i.toNat < n → verdict (.nth i) = true
    (0 < n → n ≤ UInt64.size →
      (op ≠ .notMatching →
        (verdict .any = true ↔ somewhere) ∧ (verdict .all = true ↔ everywhere)) ∧
      (op = .notMatching → ∀ p, r.value = .regex p →
        (verdict .any = true ↔ everywhere) ∧ (verdict .all = true ↔ somewhere))) ∧
    (n = 0 → op = .matching ∨ op.isMatch = false ∧ r.value ≠ .undef → ∀ t, verdict t = false) ∧
    (∀ e e' : Expr, e.Exchanges v.SameValues e' → e'.holds v = e.holds v) := by
  intro verdict n somewhere everywhere
  refine ⟨?_, ?_, ?_⟩
  · intro hpos hsize
    have hne : v.lookup name ≠ [] := List.ne_nil_of_length_pos hpos
    refine ⟨fun hop => holds_iff_positions hop hne hsize s a r, ?_⟩
    intro hop p hr
    subst hop
    have hmatching : Operator.matching ≠ .notMatching := nofun
    obtain ⟨hany, hall⟩ := holds_iff_positions hmatching hne hsize s a r
    have hverdict (t : Selector) : verdict t = true ↔
        ¬(comparison s .matching ⟨.tag ⟨name, t⟩, a⟩ r).holds v = true := by
      simp only [verdict, holds_notMatching _ hr, Bool.not_eq_true', Bool.not_eq_true]
    simp only [somewhere, everywhere, hverdict]
    constructor
    · rw [hany]
      simp only [not_exists, not_and]
      rfl
    · rw [hall]
      simp only [not_forall, exists_prop]
      rfl
  · intro hn hop t
    exact holds_of_nil (List.length_eq_zero_iff.mp hn) hop s a t
  · intro e e' h
    have halike := h.mono fun _ _ => View.SameValues.alike
    exact (holds_of_exchanges halike).symm

/-- The pattern of all texts with a `2`. -/
def twoPattern : Pattern := (Pattern.ofSource? "2" false false).get (by decide +kernel)

/-- The literal `/2/`. -/
def two : Operand := ⟨.regex twoPattern, ⟨11, 14⟩⟩

/-- Only the second rating has a `2`, there is no year, and the only artist may be selected in any
way. -/
theorem selectors_agree_rating :
    ((comparison ⟨0, 14⟩ .less (rating .any) oneAndHalf).holds ratedView = true ∧
      (comparison ⟨0, 14⟩ .less (rating .all) oneAndHalf).holds ratedView = false) ∧
    ((comparison ⟨0, 14⟩ .notMatching (rating .any) two).holds ratedView = false ∧
      (comparison ⟨0, 14⟩ .notMatching (rating .all) two).holds ratedView = true) ∧
    (comparison ⟨0, 14⟩ .less ⟨.tag ⟨"year", .all⟩, ⟨0, 7⟩⟩ oneAndHalf).holds ratedView = false ∧
    (not ⟨0, 19⟩ (comparison ⟨2, 18⟩ .equal ⟨.string "Enya", ⟨2, 8⟩⟩
      ⟨.tag ⟨"artist", .all⟩, ⟨12, 18⟩⟩)).holds ratedView = false := by
  have hsome : 0 < (ratedView.lookup "rating").length := by decide
  have hsize : (ratedView.lookup "rating").length ≤ UInt64.size := by decide
  obtain ⟨hless, -, -⟩ := selectors_agree ratedView .less ⟨0, 14⟩ ⟨0, 7⟩ "rating" oneAndHalf
  obtain ⟨hany, hall⟩ := (hless hsome hsize).1 nofun
  obtain ⟨hmatch, -, -⟩ := selectors_agree ratedView .notMatching ⟨0, 14⟩ ⟨0, 7⟩ "rating" two
  obtain ⟨hany', hall'⟩ := (hmatch hsome hsize).2 rfl twoPattern rfl
  obtain ⟨-, hnone, hexchange⟩ :=
    selectors_agree ratedView .less ⟨0, 14⟩ ⟨0, 7⟩ "year" oneAndHalf
  refine ⟨⟨hany.mpr ⟨0, by decide, by decide +kernel⟩, ?_⟩, ⟨?_, ?_⟩, ?_, ?_⟩
  · rw [← Bool.not_eq_true]
    intro h
    have hsecond := hall.mp h 1 (by decide)
    revert hsecond
    decide +kernel
  · rw [← Bool.not_eq_true]
    intro h
    have hsecond := hany'.mp h 1 (by decide)
    revert hsecond
    decide +kernel
  · exact hall'.mpr ⟨0, by decide, by decide +kernel⟩
  · exact hnone rfl (Or.inr ⟨rfl, nofun⟩) .all
  · have hsame := hexchange
      (not ⟨0, 17⟩ (comparison ⟨2, 16⟩ .equal ⟨.string "Enya", ⟨2, 8⟩⟩
        ⟨.tag ⟨"artist", .unset⟩, ⟨12, 16⟩⟩))
      (not ⟨0, 19⟩ (comparison ⟨2, 18⟩ .equal ⟨.string "Enya", ⟨2, 8⟩⟩
        ⟨.tag ⟨"artist", .all⟩, ⟨12, 18⟩⟩))
      (.not (.comparison (.refl _) (.single "artist" rfl (by decide) (by decide))))
    rw [hsame]
    decide +kernel

end Expr

end TagSieve
