import TagSieve.Proofs.Evaluation.Strict
import TagSieve.Proofs.Grammar.Parsing

/-! Parsed filters hold where they mean to, and no value in them is used in a way it is not made
for. -/
namespace TagSieve

variable {v : View} {x left right : Value} {e : Expr} {op : Operator} {r : Resolved}
  {denoted : Option Quantified} {b : Bool} {d : Domain} {s t : Scalar} {o : Option Ordering}
  {P : Scalar → Prop} {test : Scalar → Option Bool}

/-- The values of an operand as the evaluation keeps them. -/
inductive Resolved.Denotes : Resolved → Option Quantified → Prop
  | undefined : Denotes .undefined none
  | one (s : Scalar) : Denotes (.one s) (some (.single s))
  | any {values : List String} (h : values ≠ []) :
    Denotes (.any values) (some (.texts .some values h))
  | all {values : List String} (h : values ≠ []) :
    Denotes (.all values) (some (.texts .every values h))

theorem View.denotes_select {values : List String} (h : values ≠ []) (selector : Selector) :
    (View.select values selector).Denotes (selector.pick values h) := by
  cases selector with
  | unset => exact .one _
  | join => exact .one _
  | any => exact .any h
  | all => exact .all h
  | nth n =>
    rw [select, Selector.pick]
    cases values[n.toNat]? with
    | none => exact .undefined
    | some value => exact .one _

theorem View.denotes_resolve (v : View) (x : Value) :
    (v.resolve x).result.Denotes (v.denote x) := by
  cases x with
  | tag key =>
    change (if (v.lookup key.name).isEmpty then .undefined else select _ key.selector).Denotes _
    rw [denote]
    by_cases h : v.lookup key.name = []
    · rw [dif_pos h, if_pos (List.isEmpty_iff.mpr h)]
      exact .undefined
    · rw [dif_neg h, if_neg fun hempty => h (List.isEmpty_iff.mp hempty)]
      exact denotes_select h key.selector
  | regex p => exact .undefined
  | undef => exact .undefined
  | _ => exact .one _

theorem View.denotes_of_resolve? (h : v.resolve? x = some r) : r.Denotes (v.denote x) :=
  resolve_of_resolve? h ▸ v.denotes_resolve x

namespace Resolved.Denotes

theorem isUndefined (h : r.Denotes denoted) : r.isUndefined = true ↔ denoted = none := by
  cases h <;> simp [Resolved.isUndefined]

theorem holds (h : r.Denotes denoted) (ht : ∀ s c, test s = some c → (P s ↔ c = true))
    (hb : r.satisfies? test = some b) :
    (∃ q, denoted = some q ∧ q.Holds P) ↔ b = true := by
  cases h with
  | undefined =>
    cases hb
    simp
  | one s => simpa [Quantified.Holds, Quantified.single] using ht s b hb
  | any h => simpa [Quantified.Holds, Quantified.texts] using anyM_eq_some (fun s c => ht _ c) hb
  | all h => simpa [Quantified.Holds, Quantified.texts] using allM_eq_some (fun s c => ht _ c) hb

end Resolved.Denotes

theorem Operator.tests_iff (h : op.holds? o = some b) : op.Tests o ↔ b = true := by
  cases op <;> cases h <;> rcases o with _ | _ | _ | _ <;> simp [Tests, holds]

theorem Domain.of_eq_ofLiteral (h : left.isDynamic = true ∨ right.isDynamic = true) :
    Domain.of left right = .ofLiteral left right := by
  cases left <;> cases right <;> first | rfl | simp [Value.isDynamic] at h

theorem Value.domain?_of_isDynamic (hx : x.isDynamic = true) : x.domain? = none := by
  cases x <;> first | rfl | cases hx

theorem Domain.ofLiteral_left (h : left.domain? = some d) : ofLiteral left right = d := by
  rw [ofLiteral, h]
  rfl

theorem Domain.ofLiteral_right (hdynamic : left.isDynamic = true ∨ right.isDynamic = true)
    (h : right.domain? = some d) : ofLiteral left right = d := by
  rcases hdynamic with hleft | hright
  · rw [ofLiteral, Value.domain?_of_isDynamic hleft, h]
    rfl
  · rw [Value.domain?_of_isDynamic hright] at h
    cases h

namespace View

theorem holds?_of_compareUndef? {defined : Ordering} (h : v.compareUndef? op x defined = some b) :
    op.holds? (some (match v.denote x with | none => .eq | some _ => defined)) = some b := by
  obtain ⟨r, hr, hb⟩ := Option.bind_eq_some_iff.mp h
  have hundef := (denotes_of_resolve? hr).isUndefined
  cases hx : v.denote x with
  | none => rwa [if_pos (hundef.mpr hx)] at hb
  | some q => rwa [if_neg (by rw [hundef, hx]; simp)] at hb

theorem tests_undefOrder (h : v.compareUndef? op x .gt = some b) :
    op.Tests (some (v.undefOrder x)) ↔ b = true :=
  Operator.tests_iff (holds?_of_compareUndef? h)

theorem tests_swap_undefOrder (h : v.compareUndef? op x .lt = some b) :
    op.Tests (some (v.undefOrder x).swap) ↔ b = true := by
  have hswap : (v.undefOrder x).swap = match v.denote x with | none => .eq | some _ => .lt := by
    rw [undefOrder]
    cases v.denote x <;> rfl
  rw [hswap]
  exact Operator.tests_iff (holds?_of_compareUndef? h)

theorem exists_holds_iff (hdynamic : left.isDynamic = true ∨ right.isDynamic = true)
    (h : v.compareValues? op left right = some b) :
    (∃ p q, v.denote left = some p ∧ v.denote right = some q ∧ p.Holds fun s => q.Holds fun t =>
      ∃ o, (Domain.ofLiteral left right).order? s t = some o ∧ op.Tests o) ↔ b = true := by
  obtain ⟨l, hl, h⟩ := Option.bind_eq_some_iff.mp h
  have hleft := denotes_of_resolve? hl
  split at h
  case isTrue hundef =>
    cases h
    simp [hleft.isUndefined.mp hundef]
  case isFalse hundef =>
    obtain ⟨r, hr, h⟩ := Option.bind_eq_some_iff.mp h
    have hright := denotes_of_resolve? hr
    split at h
    case isTrue hundef' =>
      cases h
      simp [hright.isUndefined.mp hundef']
    case isFalse hundef' =>
      rw [hright.isUndefined] at hundef'
      obtain ⟨q, hq⟩ := Option.ne_none_iff_exists'.mp hundef'
      rw [← hleft.holds (P := fun s => q.Holds fun t => ∃ o,
        (Domain.ofLiteral left right).order? s t = some o ∧ op.Tests o) ?_ h]
      · simp [hq]
      · intro s c hs
        rw [← hright.holds (P := fun t => ∃ o,
          (Domain.ofLiteral left right).order? s t = some o ∧ op.Tests o) ?_ hs]
        · simp [hq]
        · intro t c ht
          obtain ⟨o, ho, hc⟩ := Option.bind_eq_some_iff.mp ht
          rw [← Domain.of_eq_ofLiteral hdynamic, ho]
          simp [Operator.tests_iff hc]

theorem compares_iff (hdynamic : left.isDynamic = true ∨ right.isDynamic = true)
    (h : v.comparison? op left right = some b) : v.Compares left op right ↔ b = true := by
  unfold comparison? at h
  split at h
  next => exact tests_undefOrder h
  next hleft =>
    rw [Compares]
    · exact tests_swap_undefOrder h
    · exact hleft
  next hleft hright =>
    rw [Compares]
    · exact exists_holds_iff hdynamic h
    · exact hleft
    · exact hright

theorem subject_matches_iff {p : Pattern} (h : v.matchAgainst? op p x = some b) :
    (∃ q, v.denote x = some q ∧ q.Holds fun s => ∃ t, s.text? = some t ∧ p.isMatch t = true) ↔
      (op == .notMatching) ≠ b := by
  obtain ⟨r, hr, h⟩ := Option.bind_eq_some_iff.mp h
  obtain ⟨c, hc, rfl⟩ := Option.map_eq_some_iff.mp h
  rw [(denotes_of_resolve? hr).holds (fun s c hs => ?_) hc]
  · cases op == Operator.notMatching <;> cases c <;> simp
  · obtain ⟨t, ht, rfl⟩ := Option.map_eq_some_iff.mp hs
    simp [ht]

theorem matches_iff (h : v.patternMatch? op left right = some b) :
    v.Matches left right ↔ (op == .notMatching) ≠ b := by
  unfold patternMatch? at h
  split at h
  next => exact subject_matches_iff h
  next hleft =>
    rw [Matches]
    · exact subject_matches_iff h
    · exact hleft
  next => cases h

/-- Where the strict evaluation of a parsed condition succeeds, it says what the condition means. -/
theorem means_iff_strict (he : e.Obeys) (h : v.strict e = some b) : v.Means e ↔ b = true := by
  induction e generalizing b with
  | not span e ih =>
    obtain ⟨c, hc, rfl⟩ := Option.map_eq_some_iff.mp h
    rw [Means, ih he hc]
    cases c <;> simp
  | logical span op l r ihl ihr =>
    obtain ⟨hl, hr⟩ := he
    cases op with
    | and =>
      obtain ⟨c, hc, h⟩ := Option.bind_eq_some_iff.mp h
      rw [Means, ihl hl hc]
      cases c with
      | true => simpa using ihr hr h
      | false =>
        cases h
        simp
    | or =>
      obtain ⟨c, hc, h⟩ := Option.bind_eq_some_iff.mp h
      rw [Means, ihl hl hc]
      cases c with
      | true =>
        cases h
        simp
      | false => simpa using ihr hr h
  | comparison span op l r =>
    have hdynamic := Comparable.dynamic he
    cases op with
    | matching =>
      rw [Means, matches_iff h]
      cases b <;> decide
    | notMatching =>
      rw [Means, matches_iff h]
      cases b <;> decide
    | _ => exact compares_iff hdynamic h

end View

def Resolved.scalars : Resolved → List Scalar
  | undefined => []
  | one s => [s]
  | any values | all values => values.map .text

theorem Resolved.exists_satisfies? (h : ∀ s ∈ r.scalars, ∃ c, test s = some c) :
    ∃ b, r.satisfies? test = some b := by
  cases r with
  | undefined => exact ⟨false, rfl⟩
  | one s => exact h s List.mem_cons_self
  | any values => exact exists_anyM fun s hs => h _ (List.mem_map_of_mem hs)
  | all values => exact exists_allM fun s hs => h _ (List.mem_map_of_mem hs)

/-- Whether a domain can read a value. -/
def Domain.Reads : Domain → Scalar → Prop
  | integer, s => ∃ n, s.integer? = some n
  | float, s => ∃ x, s.float? = some x
  | text, s => ∃ t, s.text? = some t

theorem Domain.reads_text (d : Domain) (t : String) : d.Reads (.text t) := by
  cases d with
  | integer => exact ⟨integerPrefix t.toList, rfl⟩
  | float => exact ⟨floatPrefix t.toList, rfl⟩
  | text => exact ⟨t, rfl⟩

theorem Domain.exists_order? (hs : d.Reads s) (ht : d.Reads t) : ∃ o, d.order? s t = some o := by
  cases d with
  | integer =>
    obtain ⟨m, hm⟩ := hs
    obtain ⟨n, hn⟩ := ht
    exact ⟨_, by rw [order?, hm, hn]; rfl⟩
  | float =>
    obtain ⟨x, hx⟩ := hs
    obtain ⟨y, hy⟩ := ht
    exact ⟨_, by rw [order?, hx, hy]; rfl⟩
  | text =>
    obtain ⟨a, ha⟩ := hs
    obtain ⟨b, hb⟩ := ht
    exact ⟨_, by rw [order?, ha, hb]; rfl⟩

namespace View

theorem text_of_mem_select {values : List String} {selector : Selector}
    (hs : s ∈ (select values selector).scalars) : ∃ t, s = .text t := by
  cases selector with
  | unset | join => exact ⟨_, List.mem_singleton.mp hs⟩
  | any | all =>
    obtain ⟨t, _, rfl⟩ := List.mem_map.mp hs
    exact ⟨t, rfl⟩
  | nth n =>
    rw [select] at hs
    cases hn : values[n.toNat]? with
    | none =>
      rw [hn] at hs
      cases hs
    | some value =>
      rw [hn] at hs
      exact ⟨value, List.mem_singleton.mp hs⟩

theorem text_of_isDynamic (hx : x.isDynamic = true) (hs : s ∈ (v.resolve x).result.scalars) :
    ∃ t, s = .text t := by
  cases x with
  | filename => exact ⟨v.path, List.mem_singleton.mp hs⟩
  | backend => exact ⟨v.backend, List.mem_singleton.mp hs⟩
  | tag key =>
    rw [resolve, resolveTag] at hs
    split at hs
    · cases hs
    · exact text_of_mem_select hs
  | _ => cases hx

/-- The values of an operand are read in its own domain, if it sets one. -/
theorem reads_of_mem_resolve (hd : ∀ d', x.domain? = some d' → d' = d)
    (hs : s ∈ (v.resolve x).result.scalars) : d.Reads s := by
  cases x with
  | integer n =>
    obtain rfl := hd .integer rfl
    exact ⟨n, by rw [List.mem_singleton.mp hs]; rfl⟩
  | float x =>
    obtain rfl := hd .float rfl
    exact ⟨x, by rw [List.mem_singleton.mp hs]; rfl⟩
  | string t =>
    obtain rfl := List.mem_singleton.mp hs
    exact d.reads_text t
  | regex p => cases hs
  | undef => cases hs
  | _ =>
    obtain ⟨t, rfl⟩ := text_of_isDynamic rfl hs
    exact d.reads_text t

theorem exists_resolve? (hregex : x.isRegex = false) (hundef : x.isUndef = false) :
    v.resolve? x = some (v.resolve x).result := by
  rw [resolve?, hregex, hundef]
  rfl

theorem exists_holds? (h : op.isMatch = false) (o : Option Ordering) :
    op.holds? o = some (op.holds o) := by
  rw [Operator.holds?, h]
  rfl

theorem exists_compareValues? (hc : Comparable left op right) (hop : op.isMatch = false)
    (hleft : left.isUndef = false) (hright : right.isUndef = false) :
    ∃ b, v.compareValues? op left right = some b := by
  obtain ⟨hregex, hregex'⟩ := hc.no_regex hop
  rw [compareValues?, exists_resolve? hregex hleft, Option.bind_some]
  split
  · exact ⟨false, rfl⟩
  · rw [exists_resolve? hregex' hright, Option.bind_some]
    split
    · exact ⟨false, rfl⟩
    · refine Resolved.exists_satisfies? fun s hs => Resolved.exists_satisfies? fun t ht => ?_
      rw [Domain.of_eq_ofLiteral hc.dynamic]
      have hsreads : (Domain.ofLiteral left right).Reads s :=
        reads_of_mem_resolve (fun _ hd => (Domain.ofLiteral_left hd).symm) hs
      have htreads : (Domain.ofLiteral left right).Reads t :=
        reads_of_mem_resolve (fun _ hd => (Domain.ofLiteral_right hc.dynamic hd).symm) ht
      obtain ⟨o, ho⟩ := Domain.exists_order? hsreads htreads
      exact ⟨op.holds o, by rw [ho, Option.bind_some, exists_holds? hop]⟩

theorem exists_compareUndef? (hop : op.isMatch = false) (hx : x.isTag = true)
    (defined : Ordering) : ∃ b, v.compareUndef? op x defined = some b := by
  cases x with
  | tag key =>
    rw [compareUndef?, exists_resolve? rfl rfl, Option.bind_some, exists_holds? hop]
    exact ⟨_, rfl⟩
  | _ => cases hx

theorem exists_comparison? (hc : Comparable left op right) (hop : op.isMatch = false) :
    ∃ b, v.comparison? op left right = some b := by
  unfold comparison?
  split
  next => exact exists_compareUndef? hop (hc.left_undef rfl).2 _
  next => exact exists_compareUndef? hop (hc.right_undef rfl).2 _
  next hleft hright =>
    exact exists_compareValues? hc hop (Bool.eq_false_iff.mpr fun h => hleft (isUndef_iff.mp h))
      (Bool.eq_false_iff.mpr fun h => hright (isUndef_iff.mp h))

theorem exists_matchAgainst? (p : Pattern) (hx : x.isDynamic = true) :
    ∃ b, v.matchAgainst? op p x = some b := by
  have hresolve : v.resolve? x = some (v.resolve x).result := by
    cases x <;> first | rfl | cases hx
  have htexts : ∀ s ∈ (v.resolve x).result.scalars, ∃ c, s.text?.map p.isMatch = some c := by
    intro s hs
    obtain ⟨t, rfl⟩ := text_of_isDynamic hx hs
    exact ⟨p.isMatch t, rfl⟩
  obtain ⟨b, hb⟩ := Resolved.exists_satisfies? htexts
  rw [matchAgainst?, hresolve, Option.bind_some, hb]
  exact ⟨_, rfl⟩

theorem exists_patternMatch? (hc : Comparable left op right) (hop : op.isMatch = true) :
    ∃ b, v.patternMatch? op left right = some b := by
  have hregex := hc.regex_of_match hop
  unfold patternMatch?
  split
  next p => exact exists_matchAgainst? p (hc.dynamic.resolve_left (by simp [Value.isDynamic]))
  next p _ =>
    exact exists_matchAgainst? p (hc.dynamic.resolve_right (by simp [Value.isDynamic]))
  next hleft hright =>
    have hl : left.isRegex = false := by
      cases left <;> first | rfl | exact (hleft _ rfl).elim
    have hr : right.isRegex = false := by
      cases right <;> first | rfl | exact (hright _ rfl).elim
    exact absurd (hl.trans hr.symm) hregex

theorem exists_strict (v : View) (he : e.Obeys) : ∃ b, v.strict e = some b := by
  induction e with
  | not span e ih =>
    obtain ⟨b, hb⟩ := ih he
    exact ⟨!b, by rw [strict, hb]; rfl⟩
  | logical span op l r ihl ihr =>
    obtain ⟨b, hb⟩ := ihl he.1
    obtain ⟨c, hc⟩ := ihr he.2
    cases op with
    | and =>
      rw [strict, hb, Option.bind_some]
      cases b with
      | true => exact ⟨c, hc⟩
      | false => exact ⟨false, rfl⟩
    | or =>
      rw [strict, hb, Option.bind_some]
      cases b with
      | true => exact ⟨true, rfl⟩
      | false => exact ⟨c, hc⟩
  | comparison span op l r =>
    rw [strict]
    cases hop : op.isMatch with
    | true => exact exists_patternMatch? he hop
    | false => exact exists_comparison? he hop

end View

/-- On every record a parsed filter holds where it means to, and its evaluation never takes a value
for something else. -/
theorem Filter.holds_iff_means (f : Filter) (v : View) :
    (f.expr.holds v = true ↔ v.Means f.expr) ∧ v.strict f.expr = some (f.expr.holds v) := by
  obtain ⟨b, hb⟩ := v.exists_strict f.obeys
  rw [View.holds_of_strict hb]
  exact ⟨(View.means_iff_strict f.obeys hb).symm, hb⟩

end TagSieve
