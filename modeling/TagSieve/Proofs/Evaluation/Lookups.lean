import TagSieve.Evaluation

/-! What a verdict depends on. Two views that agree on the path, the backend and the values of the
keys that were looked up have the same verdict, reached in the same steps. -/
namespace TagSieve

variable {α β : Type} {v w : View} {names names' keys keys' : List String}

theorem lookups_append (a b : List EvalStep) : lookups (a ++ b) = lookups a ++ lookups b :=
  List.filterMap_append

/-- The name of a tag key; no other value has one. -/
def Value.keyNames : Value → List String
  | .tag key => [key.name]
  | _ => []

/-- The names of the tag keys of a tree, from left to right. -/
def Expr.keyNames : Expr → List String
  | .not _ e => e.keyNames
  | .logical _ _ l r => l.keyNames ++ r.keyNames
  | .comparison _ _ l r => l.value.keyNames ++ r.value.keyNames

/-- The same path and backend, and the same values of these keys. -/
structure View.Agrees (keys : List String) (v w : View) : Prop where
  path : w.path = v.path
  backend : w.backend = v.backend
  lookup : ∀ key ∈ keys, w.lookup key = v.lookup key

theorem View.Agrees.mono (h : v.Agrees keys w) (hkeys : keys' ⊆ keys) : v.Agrees keys' w :=
  ⟨h.path, h.backend, fun key hkey => h.lookup key (hkeys hkey)⟩

/-- At most these keys are looked up, each once and in this order, and the outcome depends on
nothing but the keys that are. -/
structure LooksUp (names : List String) (f : View → Traced EvalStep α) : Prop where
  sublist : ∀ v, (lookups (f v).steps).Sublist names
  congr : ∀ v w, v.Agrees (lookups (f v).steps) w → f w = f v

namespace LooksUp

variable {f : View → Traced EvalStep α}

theorem pure (a : α) : LooksUp names fun _ => Traced.pure a :=
  ⟨fun _ => List.nil_sublist names, fun _ _ _ => rfl⟩

theorem mono (hf : LooksUp names f) (hnames : names.Sublist names') : LooksUp names' f :=
  ⟨fun v => (hf.sublist v).trans hnames, hf.congr⟩

theorem map (hf : LooksUp names f) (g : α → β) : LooksUp names fun v => (f v).map g := by
  refine ⟨hf.sublist, fun v w h => ?_⟩
  have hsame := hf.congr v w h
  exact congrArg (Traced.map g) hsame

/-- What comes second may depend on the outcome of what comes first, also in whether it looks up
anything. -/
theorem bind {g : View → α → Traced EvalStep β} (hf : LooksUp names f)
    (hg : ∀ a, LooksUp names' fun v => g v a) :
    LooksUp (names ++ names') fun v => (f v).bind (g v) := by
  have hsteps (v : View) : lookups ((f v).bind (g v)).steps =
      lookups (f v).steps ++ lookups (g v (f v).result).steps := lookups_append _ _
  constructor
  · intro v
    rw [hsteps]
    exact (hf.sublist v).append ((hg _).sublist v)
  · intro v w h
    rw [hsteps] at h
    have hfirst : f w = f v := hf.congr v w (h.mono (List.subset_append_left _ _))
    have hsecond : g w (f v).result = g v (f v).result :=
      (hg _).congr v w (h.mono (List.subset_append_right _ _))
    simp only [Traced.bind, hfirst, hsecond]

/-- A verdict that is written down looks up nothing. -/
theorem andThen (hf : LooksUp names f) {g : α → List EvalStep}
    (hg : ∀ a, lookups (g a) = []) :
    LooksUp names fun v => (f v).andThen (g (f v).result) := by
  have hlookups (v : View) :
      lookups ((f v).andThen (g (f v).result)).steps = lookups (f v).steps := by
    rw [Traced.andThen, lookups_append, hg, List.append_nil]
  constructor
  · intro v
    rw [hlookups]
    exact hf.sublist v
  · intro v w h
    rw [hlookups] at h
    simp only [hf.congr v w h]

end LooksUp

namespace View

theorem lookups_absence (key : TagKey) (values : List String) :
    lookups (absence key values) = [] := by
  unfold absence
  split <;> split <;> try split
  all_goals rfl

theorem looksUp_resolve (value : Value) : LooksUp value.keyNames fun v => v.resolve value := by
  cases value with
  | tag key =>
    have hlookups (v : View) : lookups (v.resolve (.tag key)).steps = [key.name] :=
      congrArg (List.cons key.name) (lookups_absence key _)
    constructor
    · intro v
      rw [hlookups]
      exact List.Sublist.refl _
    · intro v w h
      rw [hlookups] at h
      have hvalues := h.lookup key.name List.mem_cons_self
      simp only [resolve, resolveTag, hvalues]
  | filename =>
    refine ⟨fun _ => List.nil_sublist _, fun v w h => ?_⟩
    simp only [resolve, h.path]
  | backend =>
    refine ⟨fun _ => List.nil_sublist _, fun v w h => ?_⟩
    simp only [resolve, h.backend]
  | _ => exact .pure _

theorem looksUp_compareUndef (op : Operator) (other : Value) (defined : Ordering) :
    LooksUp other.keyNames fun v => v.compareUndef op other defined :=
  (looksUp_resolve other).map _

theorem looksUp_compareValues (op : Operator) (left right : Value) :
    LooksUp (left.keyNames ++ right.keyNames) fun v => v.compareValues op left right := by
  refine (looksUp_resolve left).bind fun l => ?_
  cases l.isUndefined with
  | true => exact .pure false
  | false =>
    simp only [Bool.false_eq_true, if_false]
    exact (looksUp_resolve right).map _

theorem looksUp_comparison (op : Operator) (left right : Value) :
    LooksUp (left.keyNames ++ right.keyNames) fun v => v.comparison op left right := by
  unfold comparison
  split
  · exact (looksUp_compareUndef op right .gt).mono (List.sublist_append_right _ _)
  · exact (looksUp_compareUndef op left .lt).mono (List.sublist_append_left _ _)
  · exact looksUp_compareValues op left right

theorem looksUp_matchAgainst (op : Operator) (p : Pattern) (subject : Value) :
    LooksUp subject.keyNames fun v => v.matchAgainst op p subject :=
  (looksUp_resolve subject).map _

theorem looksUp_patternMatch (op : Operator) (left right : Value) :
    LooksUp (left.keyNames ++ right.keyNames) fun v => v.patternMatch op left right := by
  unfold patternMatch
  split
  · exact (looksUp_matchAgainst op _ right).mono (List.sublist_append_right _ _)
  · exact (looksUp_matchAgainst op _ left).mono (List.sublist_append_left _ _)
  · exact .pure false

/-- The right side of a connective is looked up only if the left one does not settle it. -/
theorem looksUp_eval (e : Expr) : LooksUp e.keyNames fun v => v.eval e := by
  induction e with
  | not span e ih => exact ih.map _
  | logical span op l r ihl ihr =>
    cases op with
    | and =>
      refine ihl.bind fun b => ?_
      cases b with
      | true => exact ihr
      | false => exact .pure false
    | or =>
      refine ihl.bind fun b => ?_
      cases b with
      | true => exact .pure true
      | false => exact ihr
  | comparison span op l r =>
    have hverdict : LooksUp (l.value.keyNames ++ r.value.keyNames) fun v =>
        if op.isMatch then v.patternMatch op l.value r.value
        else v.comparison op l.value r.value := by
      cases op.isMatch with
      | true => exact looksUp_patternMatch op l.value r.value
      | false => exact looksUp_comparison op l.value r.value
    exact hverdict.andThen (g := fun b => [.verdict op l.value r.value b]) fun _ => rfl

end View

namespace Expr

/-- The keys that are looked up for a verdict are some of the keys of the tree, in their order. A
view that differs from this one in the values of other keys only has the same verdict, reached in
the same steps. -/
theorem verdict_depends_on_lookups (e : Expr) (v : View) :
    (lookups (v.eval e).steps).Sublist e.keyNames ∧
      ∀ w, v.Agrees (lookups (v.eval e).steps) w →
        e.holds w = e.holds v ∧ (w.eval e).steps = (v.eval e).steps := by
  have he := View.looksUp_eval e
  refine ⟨he.sublist v, fun w h => ?_⟩
  have hsame : w.eval e = v.eval e := he.congr v w h
  exact ⟨congrArg Traced.result hsame, congrArg Traced.steps hsame⟩

/-- The tree of `%a == 1 && %b == 2 || %c == undef`. -/
def eitherTree : Expr :=
  .logical ⟨0, 33⟩ .or
    (.logical ⟨0, 18⟩ .and
      (.comparison ⟨0, 7⟩ .equal ⟨.tag ⟨"a", .unset⟩, ⟨0, 2⟩⟩ ⟨.integer 1, ⟨6, 7⟩⟩)
      (.comparison ⟨11, 18⟩ .equal ⟨.tag ⟨"b", .unset⟩, ⟨11, 13⟩⟩ ⟨.integer 2, ⟨17, 18⟩⟩))
    (.comparison ⟨22, 33⟩ .equal ⟨.tag ⟨"c", .unset⟩, ⟨22, 24⟩⟩ ⟨.undef, ⟨28, 33⟩⟩)

/-- A view in which only the keys `a` and `b` have values. -/
def viewOf (a b : List String) : View :=
  ⟨"a.flac", "libFLAC", fun key => if key = "a" then a else if key = "b" then b else []⟩

/-- The first comparison fails, so the second one is left out and the values of its key are free. -/
theorem verdict_depends_on_lookups_either :
    (viewOf ["2"] []).Agrees ["a", "c"] (viewOf ["2"] ["2", "x"]) ∧
      ["a", "c"].Sublist eitherTree.keyNames ∧
      eitherTree.holds (viewOf ["2"] ["2", "x"]) = eitherTree.holds (viewOf ["2"] []) ∧
      lookups ((viewOf ["2"] ["2", "x"]).eval eitherTree).steps = ["a", "c"] := by
  have hlookups : lookups ((viewOf ["2"] []).eval eitherTree).steps = ["a", "c"] := by
    decide +kernel
  have hagrees : (viewOf ["2"] []).Agrees ["a", "c"] (viewOf ["2"] ["2", "x"]) := by
    refine ⟨rfl, rfl, ?_⟩
    decide +kernel
  obtain ⟨hsublist, hsame⟩ := verdict_depends_on_lookups eitherTree (viewOf ["2"] [])
  rw [hlookups] at hsublist hsame
  obtain ⟨hverdict, hsteps⟩ := hsame _ hagrees
  exact ⟨hagrees, hsublist, hverdict, hsteps ▸ hlookups⟩

end Expr

end TagSieve
