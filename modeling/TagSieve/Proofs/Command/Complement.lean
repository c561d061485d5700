import TagSieve.Command.Check
import TagSieve.Proofs.Grammar.Composition

/-! Inverted checks. What a check selects and what it selects when it is inverted make up the input
between them, and inverting a check is the same as negating its filter. -/
namespace TagSieve

variable {α : Type}

/-- Every item of the first list is the next one of either the second or the third list, so the
first list is those two merged. -/
inductive Splits : List α → List α → List α → Prop
  | nil : Splits [] [] []
  | left {xs ys zs : List α} (x : α) (h : Splits xs ys zs) : Splits (x :: xs) (x :: ys) zs
  | right {xs ys zs : List α} (x : α) (h : Splits xs ys zs) : Splits (x :: xs) ys (x :: zs)

theorem splits_filter (p : α → Bool) (xs : List α) :
    Splits xs (xs.filter p) (xs.filter fun x => !p x) := by
  induction xs with
  | nil => exact .nil
  | cons x xs ih =>
    by_cases hx : p x = true
    · simpa [hx] using ih.left x
    · simpa [hx] using ih.right x

namespace CheckOptions

theorem result_run_straight (f : Filter) (input : Option String) (syntaxOnly : Bool) :
    (run ⟨f.source, input, syntaxOnly, false⟩).result = if syntaxOnly then .ok .syntaxValid
      else (records input).map fun rs => .selected (rs.filter f.accepts) := by
  simpa using result_run_of_parse f.parse_source input syntaxOnly false

theorem result_run_inverted (f : Filter) (input : Option String) (syntaxOnly : Bool) :
    (run ⟨f.source, input, syntaxOnly, true⟩).result = if syntaxOnly then .ok .syntaxValid
      else (records input).map fun rs => .selected (rs.filter fun r => !f.accepts r) := by
  simpa using result_run_of_parse f.parse_source input syntaxOnly true

/-- The negated filter selects what the inverted check does. -/
theorem result_run_not (f : Filter) (input : Option String) (syntaxOnly : Bool) :
    (run ⟨"!(" ++ f.source ++ ")", input, syntaxOnly, false⟩).result =
      (run ⟨f.source, input, syntaxOnly, true⟩).result := by
  obtain ⟨g, hg, -, hverdict⟩ := f.composes_not
  have haccepts : g.accepts = fun r => !f.accepts r := by
    funext r
    exact hverdict r.view
  have hnot := result_run_of_parse hg input syntaxOnly false
  simp only [haccepts, Bool.bne_false] at hnot
  exact hnot.trans (result_run_inverted f input syntaxOnly).symm

/-- An inverted check is the check of the negated filter. It fails as the check itself does; if the
records can be read, each of them is selected by exactly one of the two checks, in its place among
the others. -/
theorem invert_complements (f : Filter) (input : Option String) (syntaxOnly : Bool) :
    (run ⟨"!(" ++ f.source ++ ")", input, syntaxOnly, false⟩).result =
        (run ⟨f.source, input, syntaxOnly, true⟩).result ∧
      match syntaxOnly, records input with
      | true, _ =>
        (run ⟨f.source, input, true, false⟩).result = .ok .syntaxValid ∧
          (run ⟨f.source, input, true, true⟩).result = .ok .syntaxValid
      | false, .error e =>
        (run ⟨f.source, input, false, false⟩).result = .error e ∧
          (run ⟨f.source, input, false, true⟩).result = .error e
      | false, .ok rs => ∃ kept dropped,
        (run ⟨f.source, input, false, false⟩).result = .ok (.selected kept) ∧
          (run ⟨f.source, input, false, true⟩).result = .ok (.selected dropped) ∧
          kept.Sublist rs ∧ dropped.Sublist rs ∧ (∀ r ∈ rs, r ∈ kept ↔ r ∉ dropped) ∧
          Splits rs kept dropped := by
  refine ⟨result_run_not f input syntaxOnly, ?_⟩
  cases syntaxOnly with
  | true => exact ⟨result_run_straight f input true, result_run_inverted f input true⟩
  | false =>
    have hstraight := result_run_straight f input false
    have hinverted := result_run_inverted f input false
    cases hrecords : records input with
    | error e =>
      simp only [hrecords] at hstraight hinverted
      exact ⟨hstraight, hinverted⟩
    | ok rs =>
      simp only [hrecords] at hstraight hinverted
      refine ⟨_, _, hstraight, hinverted, List.filter_sublist, List.filter_sublist, ?_,
        splits_filter _ rs⟩
      intro r hr
      simp [hr]

end CheckOptions

end TagSieve
