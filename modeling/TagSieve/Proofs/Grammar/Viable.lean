import TagSieve.Proofs.Grammar.Front

/-! The fronts of sentences. Whatever a front can step to is the front of a sentence again, and what
it cannot step to is the front of none. -/
namespace TagSieve

variable {x : Symbol} {ss : List Symbol} {f g : Front}

/-- Some sentence starts with these symbols. -/
def Viable (ss : List Symbol) : Prop :=
  ∃ d : Disjunction, ss <+: .start :: (d.yield ++ [.finish])

/-- The sentence may end here. -/
def Front.Complete (f : Front) : Prop := ∃ s, f.stage = .simple s ∧ f.openings = []

namespace Front

/-- Behind a `Simple` the open groups only have to be closed. -/
theorem exists_sentence_of_simple (s : Simple) (chain : Chain) (os : List Opening) :
    ∃ ts, ∃ d : Disjunction, yield ⟨.simple s, chain, os⟩ ++ ts = d.yield := by
  induction os generalizing s chain with
  | nil =>
    refine ⟨[], chain.close s, ?_⟩
    rw [List.append_nil, Chain.yield_close]
    rfl
  | cons o os ih =>
    have hstep : step ⟨.simple s, chain, o :: os⟩ .closeParen =
        some ⟨.simple (o.close (chain.close s)), o.around, os⟩ := rfl
    obtain ⟨ts, d, hd⟩ := ih (o.close (chain.close s)) o.around
    refine ⟨.closeParen :: ts, d, ?_⟩
    rw [yield_step hstep, List.append_assoc] at hd
    exact hd

/-- Every front can be led to the end of a `Simple`, here by a comparison of `undef` with itself. -/
theorem exists_simple (f : Front) :
    ∃ ts s chain os, f.run ts = some ⟨.simple s, chain, os⟩ := by
  obtain ⟨stage, chain, os⟩ := f
  cases stage with
  | nothing => exact ⟨[.value .undef, .operator .equal, .value .undef], _, _, _, rfl⟩
  | negation =>
    exact ⟨[.openParen, .value .undef, .operator .equal, .value .undef], _, _, _, rfl⟩
  | left v => exact ⟨[.operator .equal, .value .undef], _, _, _, rfl⟩
  | operator v op => exact ⟨[.value .undef], _, _, _, rfl⟩
  | simple s => exact ⟨[], _, _, _, rfl⟩

theorem exists_sentence (f : Front) : ∃ ts, ∃ d : Disjunction, f.yield ++ ts = d.yield := by
  obtain ⟨ts, s, chain, os, hrun⟩ := f.exists_simple
  obtain ⟨us, d, hd⟩ := exists_sentence_of_simple s chain os
  refine ⟨ts ++ us, d, ?_⟩
  rw [yield_run hrun, List.append_assoc] at hd
  exact hd

theorem viable_of_run (h : empty.run ss = some f) : Viable (.start :: ss) := by
  obtain ⟨ts, d, hd⟩ := f.exists_sentence
  rw [yield_run h] at hd
  refine ⟨d, List.cons_prefix_cons.mpr ⟨rfl, ts ++ [.finish], ?_⟩⟩
  rw [← List.append_assoc, ← hd]
  rfl

/-- A symbol that a front cannot step over makes it the front of no sentence. -/
theorem not_viable_of_step (h : empty.run ss = some f) (hx : f.step x = none)
    (hend : x = .finish → ¬ f.Complete) : ¬ Viable (.start :: (ss ++ [x])) := by
  rintro ⟨d, hd⟩
  obtain ⟨s, chain, hrun, -⟩ := d.run_yield []
  have hprefix : ss ++ [x] <+: d.yield ++ [.finish] := (List.cons_prefix_cons.mp hd).2
  rcases List.prefix_concat_iff.mp hprefix with hwhole | ⟨ts, hts⟩
  · obtain ⟨rfl, hfinish⟩ := List.append_inj' hwhole rfl
    obtain rfl := Option.some.inj (h.symm.trans hrun)
    exact hend (List.cons.inj hfinish).1 ⟨s, rfl, rfl⟩
  · change empty.run d.yield = _ at hrun
    rw [← hts, List.append_assoc, run_append, h, Option.bind_some, List.singleton_append, run_cons,
      hx] at hrun
    cases hrun

/-- The end of the filter comes behind all other symbols. -/
theorem step_finish (f : Front) : f.step .finish = none := by
  obtain ⟨stage, chain, os⟩ := f
  cases stage <;> rfl

end Front

end TagSieve
