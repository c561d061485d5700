import TagSieve.Proofs.Evaluation.Verdict

/-! The sides of a comparison can be exchanged if the operator is turned around with them. Only `==`
and `!=` between some value of one tag and every value of another depend on which side stands
first. -/
namespace TagSieve

variable {α β : Type} {v : View} {op : Operator} {x y : Value} {l r : Resolved} {a b c : String}
  {values : List String}

/-- The operator that says the same of two values in the other order. -/
def Operator.mirror : Operator → Operator
  | less => greater
  | greater => less
  | lessEqual => greaterEqual
  | greaterEqual => lessEqual
  | op => op

theorem Operator.holds_mirror (op : Operator) (o : Option Ordering) :
    op.mirror.holds (o.map Ordering.swap) = op.holds o := by
  cases op <;> rcases o with _ | _ | _ | _ <;> rfl

namespace Domain

instance transCmp_codePoint : Std.TransCmp fun c d : Char => compare c.toNat d.toNat :=
  inferInstanceAs (Std.TransCmp (compareOn Char.toNat))

instance transCmp_compareText : Std.TransCmp compareText :=
  have h : Std.TransCmp (List.compareLex fun c d : Char => compare c.toNat d.toNat) :=
    inferInstance
  { eq_swap := h.eq_swap, isLE_trans := h.isLE_trans }

theorem of_comm (x y : Value) : Domain.of y x = Domain.of x y := by
  cases x <;> cases y <;> rfl

theorem compare?_swap (d : Domain) (s t : Scalar) :
    d.compare? t s = (d.compare? s t).map Ordering.swap := by
  cases d with
  | integer =>
    have hswap : compare t.toInteger.toInt s.toInteger.toInt =
        (compare s.toInteger.toInt t.toInteger.toInt).swap := Std.OrientedOrd.eq_swap
    exact congrArg some hswap
  | float =>
    have hswap : compare t.toFloat.rank s.toFloat.rank =
        (compare s.toFloat.rank t.toFloat.rank).swap := Std.OrientedOrd.eq_swap
    simp only [compare?, Binary64.compare?, Bool.or_comm t.toFloat.isNaN, hswap]
    by_cases hnan : (s.toFloat.isNaN || t.toFloat.isNaN) = true <;> simp [hnan]
  | text =>
    have hswap : compareText t.toText s.toText = (compareText s.toText t.toText).swap :=
      Std.OrientedCmp.eq_swap
    exact congrArg some hswap

end Domain

theorem Operator.holds_of_le (hop : op = .less ∨ op = .lessEqual)
    (hle : (Domain.compareText a b).isLE = true)
    (h : op.holds (some (Domain.compareText b c)) = true) :
    op.holds (some (Domain.compareText a c)) = true := by
  rcases hop with rfl | rfl
  · have hlt : Domain.compareText b c = .lt := by simpa [holds] using h
    have hac : Domain.compareText a c = .lt := Std.TransCmp.lt_of_isLE_of_lt hle hlt
    simp [holds, hac]
  · have hbc : (Domain.compareText b c).isLE = true := by
      simpa [holds, Ordering.isLE_iff_ne_gt] using h
    have hac : (Domain.compareText a c).isLE = true := Std.TransCmp.isLE_trans hle hbc
    simpa [holds, Ordering.isLE_iff_ne_gt] using hac

theorem Operator.holds_of_ge (hop : op = .greater ∨ op = .greaterEqual)
    (hge : (Domain.compareText a b).isGE = true)
    (h : op.holds (some (Domain.compareText b c)) = true) :
    op.holds (some (Domain.compareText a c)) = true := by
  rcases hop with rfl | rfl
  · have hgt : Domain.compareText b c = .gt := by simpa [holds] using h
    have hac : Domain.compareText a c = .gt := Std.TransCmp.gt_of_isGE_of_gt hge hgt
    simp [holds, hac]
  · have hbc : (Domain.compareText b c).isGE = true := by
      simpa [holds, Ordering.isGE_iff_ne_lt] using h
    have hac : (Domain.compareText a c).isGE = true := Std.TransCmp.isGE_trans hge hbc
    simpa [holds, Ordering.isGE_iff_ne_lt] using hac

def Operator.IsEquality (op : Operator) : Prop := op = equal ∨ op = notEqual

/-- Of two texts one passes wherever the other does, as one of them is the smaller one. -/
theorem Operator.holds_total (hop : ¬ op.IsEquality) (a b : String) :
    (∀ c, op.holds (some (Domain.compareText a c)) = true →
        op.holds (some (Domain.compareText b c)) = true) ∨
      ∀ c, op.holds (some (Domain.compareText b c)) = true →
        op.holds (some (Domain.compareText a c)) = true := by
  have htotal : (Domain.compareText a b).isLE = true ∨ (Domain.compareText a b).isGE = true := by
    cases Domain.compareText a b <;> simp
  have hswap : Domain.compareText b a = (Domain.compareText a b).swap := Std.OrientedCmp.eq_swap
  cases op with
  | equal => exact absurd (Or.inl rfl) hop
  | notEqual => exact absurd (Or.inr rfl) hop
  | matching | notMatching => exact Or.inl fun _ h => h
  | less | lessEqual =>
    rcases htotal with hle | hge
    · exact Or.inr fun _ => holds_of_le (by simp) hle
    · exact Or.inl fun _ => holds_of_le (by simp) (by simpa [hswap] using hge)
  | greater | greaterEqual =>
    rcases htotal with hle | hge
    · exact Or.inl fun _ => holds_of_ge (by simp) (by simpa [hswap] using hle)
    · exact Or.inr fun _ => holds_of_ge (by simp) hge

theorem exists_dominant {P : α → β → Prop} {as : List α} (hne : as ≠ [])
    (htotal : ∀ a a', (∀ b, P a b → P a' b) ∨ ∀ b, P a' b → P a b) :
    ∃ m ∈ as, ∀ a ∈ as, ∀ b, P a b → P m b := by
  induction as with
  | nil => exact absurd rfl hne
  | cons a as ih =>
    by_cases has : as = []
    · subst has
      refine ⟨a, by simp, ?_⟩
      intro a' ha' b hb
      obtain rfl : a' = a := by simpa using ha'
      exact hb
    · obtain ⟨m, hm, hdom⟩ := ih has
      -- The head against what dominates the tail: the better of the two dominates all.
      rcases htotal a m with ham | hma
      · refine ⟨m, by simp [hm], ?_⟩
        intro a' ha' b hb
        rcases List.mem_cons.mp ha' with rfl | ha'
        · exact ham b hb
        · exact hdom a' ha' b hb
      · refine ⟨a, by simp, ?_⟩
        intro a' ha' b hb
        rcases List.mem_cons.mp ha' with rfl | ha'
        · exact hb
        · exact hma b (hdom a' ha' b hb)

/-- Some value passes against every other one if against every other one some value does, because
the extreme value passes for all of them. -/
theorem exists_forall_comm {P : α → β → Prop} {as : List α} (bs : List β) (hne : as ≠ [])
    (htotal : ∀ a a', (∀ b, P a b → P a' b) ∨ ∀ b, P a' b → P a b) :
    (∃ a ∈ as, ∀ b ∈ bs, P a b) ↔ ∀ b ∈ bs, ∃ a ∈ as, P a b := by
  constructor
  · rintro ⟨a, ha, h⟩ b hb
    exact ⟨a, ha, h b hb⟩
  · intro h
    obtain ⟨m, hm, hdom⟩ := exists_dominant hne htotal
    refine ⟨m, hm, ?_⟩
    intro b hb
    obtain ⟨a, ha, hab⟩ := h b hb
    exact hdom a ha b hab

/-- One side asks for some value of a tag, and the other one for every value. -/
inductive Value.Opposed : Value → Value → Prop
  | anyAll (name name' : String) : Opposed (.tag ⟨name, .any⟩) (.tag ⟨name', .all⟩)
  | allAny (name name' : String) : Opposed (.tag ⟨name, .all⟩) (.tag ⟨name', .any⟩)

namespace View

/-- What an operand can come to. Only a tag has several values, and then at least one. -/
inductive Resolves (v : View) : Value → Resolved → Prop
  | undefined (x : Value) : Resolves v x .undefined
  | one (x : Value) (s : Scalar) : Resolves v x (.one s)
  | any (name : String) (h : v.lookup name ≠ []) :
    Resolves v (.tag ⟨name, .any⟩) (.any (v.lookup name))
  | all (name : String) (h : v.lookup name ≠ []) :
    Resolves v (.tag ⟨name, .all⟩) (.all (v.lookup name))

theorem resolves (v : View) (x : Value) : v.Resolves x (v.resolve x).result := by
  cases x with
  | tag key =>
    obtain ⟨name, selector⟩ := key
    simp only [resolve, resolveTag]
    by_cases hempty : v.lookup name = []
    · simpa [hempty] using Resolves.undefined _
    · simp only [List.isEmpty_iff, hempty, if_false]
      cases selector with
      | any => exact .any name hempty
      | all => exact .all name hempty
      | nth n =>
        simp only [select]
        cases (v.lookup name)[n.toNat]? with
        | none => exact .undefined _
        | some value => exact .one _ _
      | _ => exact .one _ _
  | regex p => exact .undefined _
  | undef => exact .undefined _
  | _ => exact .one _ _

end View

namespace Resolved

variable (test : Scalar → Scalar → Bool) (as bs : List String)

theorem any_any_comm : ((any as).satisfies fun s => (any bs).satisfies fun t => test s t) =
    (any bs).satisfies fun t => (any as).satisfies fun s => test s t := by
  rw [Bool.eq_iff_iff]
  simp only [satisfies, List.any_eq_true]
  constructor
  · rintro ⟨a, ha, b, hb, h⟩
    exact ⟨b, hb, a, ha, h⟩
  · rintro ⟨b, hb, a, ha, h⟩
    exact ⟨a, ha, b, hb, h⟩

theorem all_all_comm : ((all as).satisfies fun s => (all bs).satisfies fun t => test s t) =
    (all bs).satisfies fun t => (all as).satisfies fun s => test s t := by
  rw [Bool.eq_iff_iff]
  simp only [satisfies, List.all_eq_true]
  constructor
  · intro h b hb a ha
    exact h a ha b hb
  · intro h a ha b hb
    exact h b hb a ha

variable {test as} in
theorem any_all_comm (hne : as ≠ [])
    (htotal : ∀ a a' : String,
      (∀ b : String, test (.text a) (.text b) = true → test (.text a') (.text b) = true) ∨
        ∀ b : String, test (.text a') (.text b) = true → test (.text a) (.text b) = true) :
    ((any as).satisfies fun s => (all bs).satisfies fun t => test s t) =
      (all bs).satisfies fun t => (any as).satisfies fun s => test s t := by
  have hcomm := exists_forall_comm bs hne htotal
  rw [Bool.eq_iff_iff]
  simpa [satisfies] using hcomm

end Resolved

namespace View

theorem compareValues_mirror (h : ¬ (op.IsEquality ∧ x.Opposed y)) :
    (v.compareValues op.mirror y x).result = (v.compareValues op x y).result := by
  have htest (s t : Scalar) : op.mirror.holds ((Domain.of y x).compare? t s) =
      op.holds ((Domain.of x y).compare? s t) := by
    rw [Domain.of_comm, Domain.compare?_swap, Operator.holds_mirror]
  have hx := v.resolves x
  have hy := v.resolves y
  rw [result_compareValues, result_compareValues]
  generalize (v.resolve x).result = l at hx ⊢
  generalize (v.resolve y).result = r at hy ⊢
  -- Only two tags put one quantifier inside another; everywhere else one test decides.
  cases hx with
  | undefined => simp [Resolved.isUndefined]
  | one s => cases hy <;> simp [Resolved.isUndefined, Resolved.satisfies, htest]
  | any name hname =>
    cases hy with
    | undefined => simp [Resolved.isUndefined]
    | one => simp [Resolved.isUndefined, Resolved.satisfies, htest]
    | any name' hname' =>
      simp only [htest, Resolved.isUndefined]
      rw [Resolved.any_any_comm]
    | all name' hname' =>
      have hop : ¬ op.IsEquality := fun hop => h ⟨hop, .anyAll name name'⟩
      simp only [htest, Resolved.isUndefined]
      rw [Resolved.any_all_comm _ hname (Operator.holds_total hop)]
  | all name hname =>
    cases hy with
    | undefined => simp [Resolved.isUndefined]
    | one => simp [Resolved.isUndefined, Resolved.satisfies, htest]
    | any name' hname' =>
      have hop : ¬ op.mirror.IsEquality := by
        intro hop
        refine h ⟨?_, .allAny name name'⟩
        cases op <;> simp_all [Operator.mirror, Operator.IsEquality]
      simp only [← htest, Resolved.isUndefined]
      rw [Resolved.any_all_comm _ hname' (Operator.holds_total hop)]
    | all name' hname' =>
      simp only [htest, Resolved.isUndefined]
      rw [Resolved.all_all_comm]

theorem compareUndef_mirror (op : Operator) (x : Value) (defined : Ordering) :
    (v.compareUndef op.mirror x defined.swap).result = (v.compareUndef op x defined).result := by
  have hmirror := op.holds_mirror (some (if (v.resolve x).result.isUndefined then .eq else defined))
  simp only [compareUndef, Traced.result_map]
  rw [← hmirror]
  cases (v.resolve x).result.isUndefined <;> rfl

theorem comparison_mirror (h : ¬ (op.IsEquality ∧ x.Opposed y)) :
    (v.comparison op.mirror y x).result = (v.comparison op x y).result := by
  by_cases hx : x = .undef
  · subst hx
    rw [comparison_undef_right]
    exact compareUndef_mirror op y .gt
  · by_cases hy : y = .undef
    · subst hy
      rw [comparison_undef_right]
      exact compareUndef_mirror op x .lt
    · rw [comparison_of_ne_undef _ hx hy, comparison_of_ne_undef _ hy hx]
      exact compareValues_mirror h

theorem patternMatch_mirror (op : Operator) (x y : Value) :
    (v.patternMatch op y x).result = (v.patternMatch op x y).result := by
  cases x <;> cases y <;> rfl

end View

namespace Expr

theorem holds_mirror {l r : Operand} (h : ¬ (op.IsEquality ∧ l.value.Opposed r.value)) (v : View)
    (s s' : Span) :
    (comparison s' op.mirror r l).holds v = (comparison s op l r).holds v := by
  by_cases hop : op.isMatch = true
  · have hmirror : op.mirror = op := by cases op <;> first | rfl | cases hop
    rw [hmirror, holds_match v hop, holds_match v hop]
    exact View.patternMatch_mirror op l.value r.value
  · have hop : op.isMatch = false := by simpa using hop
    have hmirror : op.mirror.isMatch = false := by cases op <;> first | rfl | cases hop
    rw [holds_comparison v hmirror, holds_comparison v hop]
    exact View.comparison_mirror h

/-- A view in which every tag has the values `a` and `b`. -/
def pairView : View := ⟨"", "", fun _ => ["a", "b"]⟩

/-- No value equals, or differs from, all of the two values. -/
theorem holds_anyAll (hop : op.IsEquality) (name name' : String) (s a b : Span) :
    (comparison s op ⟨.tag ⟨name, .any⟩, a⟩ ⟨.tag ⟨name', .all⟩, b⟩).holds pairView = false := by
  rcases hop with rfl | rfl <;> rfl

/-- Each of the two values equals some value and differs from some value. -/
theorem holds_allAny (hop : op.IsEquality) (name name' : String) (s a b : Span) :
    (comparison s op ⟨.tag ⟨name, .all⟩, a⟩ ⟨.tag ⟨name', .any⟩, b⟩).holds pairView = true := by
  rcases hop with rfl | rfl <;> rfl

theorem holds_ne_of_opposed {l r : Operand} (hop : op.IsEquality)
    (h : l.value.Opposed r.value) (s s' : Span) :
    (comparison s' op.mirror r l).holds pairView ≠ (comparison s op l r).holds pairView := by
  have hmirror : op.mirror = op := by rcases hop with rfl | rfl <;> rfl
  obtain ⟨x, a⟩ := l
  obtain ⟨y, b⟩ := r
  cases h with
  | anyAll name name' => simp [hmirror, holds_anyAll hop, holds_allAny hop]
  | allAny name name' => simp [hmirror, holds_anyAll hop, holds_allAny hop]

/-- A comparison says the same with its sides exchanged and its operator turned around, whatever the
operands are. The only exceptions are `==` and `!=` with some value of a tag on one side and every
value of a tag on the other one, and each of those is one. -/
theorem mirrors_iff (op : Operator) (l r : Operand) :
    (∀ (v : View) (s s' : Span),
        (comparison s' op.mirror r l).holds v = (comparison s op l r).holds v) ↔
      ¬ ((op = .equal ∨ op = .notEqual) ∧ l.value.Opposed r.value) := by
  constructor
  · rintro h ⟨hop, hopposed⟩
    exact holds_ne_of_opposed hop hopposed ⟨0, 0⟩ ⟨0, 0⟩ (h pairView ⟨0, 0⟩ ⟨0, 0⟩)
  · intro h v s s'
    exact holds_mirror h v s s'

end Expr

end TagSieve
