import TagSieve.Proofs.Evaluation.Denotation

/-! An evaluation that fails where a value is used in a way that no filter allows: a match without a
pattern, `undef` or a pattern as a value to compare, a number read as a text or as a number of the
other kind, or the sign test of a match. -/
namespace TagSieve

variable {v : View} {x : Value} {e : Expr} {op : Operator} {left right : Value} {r : Resolved}
  {b : Bool} {d : Domain} {s t : Scalar} {o : Option Ordering} {P : String → Prop}
  {values : List String} {f : String → Option Bool} {test : Scalar → Option Bool}

def Resolved.satisfies? (r : Resolved) (test : Scalar → Option Bool) : Option Bool :=
  match r with
  | undefined => some false
  | one s => test s
  | any values => values.anyM fun s => test (.text s)
  | all values => values.allM fun s => test (.text s)

def Operator.holds? (op : Operator) (o : Option Ordering) : Option Bool :=
  if op.isMatch then none else some (op.holds o)

namespace View

def resolve? (v : View) (x : Value) : Option Resolved :=
  if x.isRegex || x.isUndef then none else some (v.resolve x).result

def compareUndef? (v : View) (op : Operator) (other : Value) (defined : Ordering) : Option Bool :=
  (v.resolve? other).bind fun r => op.holds? (some (if r.isUndefined then .eq else defined))

def compareValues? (v : View) (op : Operator) (left right : Value) : Option Bool :=
  (v.resolve? left).bind fun l =>
    if l.isUndefined then some false
    else
      (v.resolve? right).bind fun r =>
        if r.isUndefined then some false
        else
          l.satisfies? fun s => r.satisfies? fun t =>
            ((Domain.of left right).order? s t).bind op.holds?

def comparison? (v : View) (op : Operator) (left right : Value) : Option Bool :=
  match left, right with
  | .undef, _ => v.compareUndef? op right .gt
  | _, .undef => v.compareUndef? op left .lt
  | _, _ => v.compareValues? op left right

def matchAgainst? (v : View) (op : Operator) (p : Pattern) (subject : Value) : Option Bool :=
  (v.resolve? subject).bind fun r =>
    (r.satisfies? fun s => s.text?.map p.isMatch).map fun b => (op == .notMatching) != b

def patternMatch? (v : View) (op : Operator) (left right : Value) : Option Bool :=
  match left, right with
  | .regex p, _ => v.matchAgainst? op p right
  | _, .regex p => v.matchAgainst? op p left
  | _, _ => none

def strict (v : View) : Expr → Option Bool
  | .not _ e => (v.strict e).map (!·)
  | .logical _ .and l r => (v.strict l).bind fun b => if b then v.strict r else some false
  | .logical _ .or l r => (v.strict l).bind fun b => if b then some true else v.strict r
  | .comparison _ op l r =>
    if op.isMatch then v.patternMatch? op l.value r.value else v.comparison? op l.value r.value

end View

theorem anyM_eq_some (hf : ∀ s c, f s = some c → (P s ↔ c = true)) (h : values.anyM f = some b) :
    (∃ s ∈ values, P s) ↔ b = true := by
  induction values with
  | nil =>
    cases h
    simp
  | cons s values ih =>
    rw [List.anyM] at h
    obtain ⟨c, hc, hb⟩ := Option.bind_eq_some_iff.mp h
    simp only [List.mem_cons, exists_eq_or_imp, hf s c hc]
    cases c with
    | true =>
      cases hb
      simp
    | false => simpa using ih hb

theorem allM_eq_some (hf : ∀ s c, f s = some c → (P s ↔ c = true)) (h : values.allM f = some b) :
    (∀ s ∈ values, P s) ↔ b = true := by
  induction values with
  | nil =>
    cases h
    simp
  | cons s values ih =>
    rw [List.allM] at h
    obtain ⟨c, hc, hb⟩ := Option.bind_eq_some_iff.mp h
    rw [List.forall_mem_cons, hf s c hc]
    cases c with
    | true => simpa using ih hb
    | false =>
      cases hb
      simp

theorem exists_anyM (h : ∀ s ∈ values, ∃ c, f s = some c) : ∃ b, values.anyM f = some b := by
  induction values with
  | nil => exact ⟨false, rfl⟩
  | cons s values ih =>
    obtain ⟨c, hc⟩ := h s List.mem_cons_self
    obtain ⟨b, hb⟩ := ih fun t ht => h t (List.mem_cons_of_mem s ht)
    rw [List.anyM, hc]
    cases c with
    | true => exact ⟨true, rfl⟩
    | false => exact ⟨b, hb⟩

theorem exists_allM (h : ∀ s ∈ values, ∃ c, f s = some c) : ∃ b, values.allM f = some b := by
  induction values with
  | nil => exact ⟨true, rfl⟩
  | cons s values ih =>
    obtain ⟨c, hc⟩ := h s List.mem_cons_self
    obtain ⟨b, hb⟩ := ih fun t ht => h t (List.mem_cons_of_mem s ht)
    rw [List.allM, hc]
    cases c with
    | true => exact ⟨b, hb⟩
    | false => exact ⟨false, rfl⟩

theorem Resolved.satisfies_of_satisfies? {test' : Scalar → Bool}
    (ht : ∀ s c, test s = some c → test' s = c) (h : r.satisfies? test = some b) :
    r.satisfies test' = b := by
  have htext : ∀ (s : String) c, test (.text s) = some c → (test' (.text s) = true ↔ c = true) := by
    intro s c hc
    rw [ht _ c hc]
  cases r with
  | undefined => exact Option.some.inj h
  | one s => exact ht s b h
  | any values =>
    rw [Bool.eq_iff_iff, ← anyM_eq_some htext h]
    exact List.any_eq_true
  | all values =>
    rw [Bool.eq_iff_iff, ← allM_eq_some htext h]
    exact List.all_eq_true

theorem Operator.holds_of_holds? (h : op.holds? o = some b) : op.holds o = b := by
  unfold holds? at h
  split at h
  · cases h
  · exact Option.some.inj h

namespace Scalar

theorem toInteger_of_integer? {n : Int64} (h : s.integer? = some n) : s.toInteger = n := by
  cases s <;> cases h <;> rfl

theorem toFloat_of_float? {x : Binary64} (h : s.float? = some x) : s.toFloat = x := by
  cases s <;> cases h <;> rfl

theorem toText_of_text? {a : String} (h : s.text? = some a) : s.toText = a := by
  cases s with
  | text s => exact Option.some.inj h
  | _ => cases h

end Scalar

theorem Domain.compare?_of_order? (h : d.order? s t = some o) : d.compare? s t = o := by
  cases d with
  | integer =>
    obtain ⟨m, hm, h⟩ := Option.bind_eq_some_iff.mp h
    obtain ⟨n, hn, rfl⟩ := Option.map_eq_some_iff.mp h
    rw [compare?, Scalar.toInteger_of_integer? hm, Scalar.toInteger_of_integer? hn]
  | float =>
    obtain ⟨x, hx, h⟩ := Option.bind_eq_some_iff.mp h
    obtain ⟨y, hy, rfl⟩ := Option.map_eq_some_iff.mp h
    rw [compare?, Scalar.toFloat_of_float? hx, Scalar.toFloat_of_float? hy]
  | text =>
    obtain ⟨a, ha, h⟩ := Option.bind_eq_some_iff.mp h
    obtain ⟨b, hb, rfl⟩ := Option.map_eq_some_iff.mp h
    rw [compare?, Scalar.toText_of_text? ha, Scalar.toText_of_text? hb, compareText_eq]

namespace View

theorem resolve_of_resolve? (h : v.resolve? x = some r) : (v.resolve x).result = r := by
  unfold resolve? at h
  split at h
  · cases h
  · exact Option.some.inj h

theorem compareUndef_of_strict {defined : Ordering} (h : v.compareUndef? op x defined = some b) :
    (v.compareUndef op x defined).result = b := by
  obtain ⟨r, hr, hb⟩ := Option.bind_eq_some_iff.mp h
  rw [compareUndef, Traced.result_map, resolve_of_resolve? hr]
  exact Operator.holds_of_holds? hb

theorem compareValues_of_strict (h : v.compareValues? op left right = some b) :
    (v.compareValues op left right).result = b := by
  obtain ⟨l, hl, h⟩ := Option.bind_eq_some_iff.mp h
  rw [compareValues, Traced.result_bind, resolve_of_resolve? hl]
  split at h
  case isTrue hundef =>
    cases h
    rw [if_pos hundef]
    rfl
  case isFalse hundef =>
    obtain ⟨r, hr, h⟩ := Option.bind_eq_some_iff.mp h
    rw [if_neg hundef, Traced.result_map, resolve_of_resolve? hr]
    split at h
    case isTrue hundef' =>
      cases h
      simp [hundef']
    case isFalse hundef' =>
      have hsat := Resolved.satisfies_of_satisfies? (fun s c hs =>
        Resolved.satisfies_of_satisfies? (fun t c ht => by
          obtain ⟨o, ho, hc⟩ := Option.bind_eq_some_iff.mp ht
          rw [← Domain.compare?_of_order? ho] at hc
          exact Operator.holds_of_holds? hc) hs) h
      simpa [hundef'] using hsat

theorem comparison_of_strict (h : v.comparison? op left right = some b) :
    (v.comparison op left right).result = b := by
  unfold comparison? at h
  split at h
  next => exact compareUndef_of_strict h
  next hleft =>
    rw [comparison]
    · exact compareUndef_of_strict h
    · exact hleft
  next hleft hright =>
    rw [comparison]
    · exact compareValues_of_strict h
    · exact hleft
    · exact hright

theorem matchAgainst_of_strict {p : Pattern} (h : v.matchAgainst? op p x = some b) :
    (v.matchAgainst op p x).result = b := by
  obtain ⟨r, hr, h⟩ := Option.bind_eq_some_iff.mp h
  obtain ⟨c, hc, rfl⟩ := Option.map_eq_some_iff.mp h
  rw [matchAgainst, Traced.result_map, resolve_of_resolve? hr]
  rw [Resolved.satisfies_of_satisfies? (fun s c hs => ?_) hc]
  obtain ⟨t, ht, rfl⟩ := Option.map_eq_some_iff.mp hs
  rw [Scalar.toText_of_text? ht]

theorem patternMatch_of_strict (h : v.patternMatch? op left right = some b) :
    (v.patternMatch op left right).result = b := by
  unfold patternMatch? at h
  split at h
  next => exact matchAgainst_of_strict h
  next hleft =>
    rw [patternMatch]
    · exact matchAgainst_of_strict h
    · exact hleft
  next => cases h

/-- Where the strict evaluation succeeds, it is the evaluation. -/
theorem holds_of_strict (h : v.strict e = some b) : e.holds v = b := by
  induction e generalizing b with
  | not span e ih =>
    obtain ⟨c, hc, rfl⟩ := Option.map_eq_some_iff.mp h
    exact congrArg (!·) (ih hc)
  | logical span op l r ihl ihr =>
    cases op with
    | and =>
      obtain ⟨c, hc, h⟩ := Option.bind_eq_some_iff.mp h
      change (if l.holds v then v.eval r else .pure false).result = b
      rw [ihl hc]
      cases c with
      | true => exact ihr h
      | false => exact Option.some.inj h
    | or =>
      obtain ⟨c, hc, h⟩ := Option.bind_eq_some_iff.mp h
      change (if l.holds v then .pure true else v.eval r).result = b
      rw [ihl hc]
      cases c with
      | true => exact Option.some.inj h
      | false => exact ihr h
  | comparison span op l r =>
    rw [strict] at h
    rw [Expr.holds, eval, Traced.result_andThen]
    split at h
    case isTrue hmatch =>
      rw [if_pos hmatch]
      exact patternMatch_of_strict h
    case isFalse hmatch =>
      rw [if_neg hmatch]
      exact comparison_of_strict h

end View

end TagSieve
