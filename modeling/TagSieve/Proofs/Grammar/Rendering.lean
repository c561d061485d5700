import TagSieve.Proofs.Grammar.ErrorSpans

/-! How an error is shown. Whatever a span says, its marker stands within the columns of the source
or right behind them, and under the span of an error it marks just the characters of that span. -/
namespace TagSieve

variable {s : Span} {e : ParseError} {source : String} {cs : List Char} {c : Char} {n : Nat}
  (wording : RegexWording)

namespace Span

/-- The number closest to `n` between two bounds, unless they have crossed. -/
def clamp? (low high n : Nat) : Option Nat := if low ≤ high then some (max low (min n high)) else none

/-- A difference, unless it is negative. -/
def minus? (a b : Nat) : Option Nat := if b ≤ a then some (a - b) else none

/-- The marker, step by step, by operations that are not defined on all numbers. -/
def markerSteps? (s : Span) (size : Nat) : Option (List Char) := do
  let start := min s.start size
  let stop ← clamp? start size s.stop
  if start + 1 < stop then
    let length ← minus? stop start
    let tildes ← minus? length 1
    return List.replicate start ' ' ++ '^' :: List.replicate tildes '~'
  else return List.replicate start ' ' ++ ['^']

theorem markerSteps?_eq (s : Span) (size : Nat) : s.markerSteps? size = some (s.marker size) := by
  have hstart : min s.start size ≤ size := Nat.min_le_right _ _
  unfold markerSteps? marker
  simp only [clamp?, if_pos hstart, Option.bind_eq_bind, Option.bind_some]
  split
  next hlong =>
    have hle : min s.start size ≤ max (min s.start size) (min s.stop size) := Nat.le_max_left _ _
    have hone : 1 ≤ max (min s.start size) (min s.stop size) - min s.start size := by omega
    simp only [minus?, if_pos hle, if_pos hone, Option.bind_some]
    rfl
  next hshort =>
    have hnone : max (min s.start size) (min s.stop size) - min s.start size - 1 = 0 := by omega
    rw [hnone]
    rfl

theorem length_slice (s : Span) (cs : List Char) :
    (s.slice cs).length = min s.stop cs.length - s.start := by
  simp [slice]

/-- Spaces, a caret and tildes. The caret stands in the column of the span or behind the last one;
together with the tildes it takes as many columns as the span has characters, or one. -/
theorem exists_marker (s : Span) (cs : List Char) :
    ∃ tildes, s.marker cs.length =
        List.replicate (min s.start cs.length) ' ' ++ '^' :: List.replicate tildes '~' ∧
      tildes + 1 = max 1 (s.slice cs).length := by
  refine ⟨_, rfl, ?_⟩
  rw [length_slice]
  omega

theorem not_mem_flatten (cs : List Char) : '\n' ∉ flatten cs := by
  intro h
  obtain ⟨c, -, hc⟩ := List.mem_map.mp h
  split at hc
  next => exact absurd hc (by decide)
  next hblank => exact hblank (Or.inl hc)

theorem not_mem_marker (s : Span) (size : Nat) : '\n' ∉ s.marker size := by
  intro h
  rcases List.mem_append.mp h with h | h
  · exact absurd (List.eq_of_mem_replicate h) (by decide)
  · rcases List.mem_cons.mp h with h | h
    · exact absurd h (by decide)
    · exact absurd (List.eq_of_mem_replicate h) (by decide)

theorem toList_underline (s : Span) (source : String) : (s.underline source).toList =
    flatten source.toList ++ '\n' :: s.marker source.toList.length := by
  simp [underline]

end Span

namespace ParseError

/-- What stands above the source. -/
def heading : ParseError → String
  | lex e => "lexer error: " ++ e.message wording
  | e => "parser error: " ++ e.message wording

theorem render_eq (e : ParseError) (source : String) :
    e.render wording source = e.heading wording ++ "\n" ++ e.span.underline source := by
  cases e with
  | lex e => rfl
  | _ => rfl

theorem exists_lines_render (e : ParseError) (source : String) :
    ∃ before, (e.render wording source).toList.splitOn '\n' =
      before ++ [Span.flatten source.toList, e.span.marker source.toList.length] := by
  have hrender : (e.render wording source).toList = (e.heading wording).toList ++ '\n' ::
      (Span.flatten source.toList ++ '\n' :: e.span.marker source.toList.length) := by
    simp only [render_eq, String.toList_append, Span.toList_underline]
    simp
  refine ⟨(e.heading wording).toList.splitOn '\n', ?_⟩
  rw [hrender, List.splitOn_append_cons_self,
    List.splitOn_append_cons_self_of_not_mem (Span.not_mem_flatten _),
    List.splitOn_eq_singleton (Span.not_mem_marker _ _)]

end ParseError

/-- Also the error that lies behind its source starts no later than at the end. -/
theorem Filter.start_le_of_error (he : (parse source).result = .error e) :
    e.span.start ≤ source.toList.length := by
  rcases error_fitsIn he with ⟨hle, hstop⟩ | ⟨k, -, rfl⟩
  · exact hle.trans hstop
  · exact Nat.le_refl _

/-- The report of a filter that is not accepted ends with its source, on one line, and the marker of
the error below: a caret under the first character of the span and tildes under the others, and
nothing else but spaces before it. Any span can be marked in any source, with a caret that stands at
the end of the source if the span lies behind it. -/
theorem Filter.error_underlined (source : String) :
    (∀ e, (parse source).result = .error e →
      ∃ (before : List (List Char)) (shown marker : List Char) (tildes : Nat),
        (e.render wording source).toList.splitOn '\n' = before ++ [shown, marker] ∧
        (shown.length = source.toList.length ∧ '\n' ∉ shown ∧
          ∀ (i : Nat) (c : Char), source.toList[i]? = some c →
            shown[i]? = some (if c = '\n' ∨ c = '\t' then ' ' else c)) ∧
        marker = List.replicate e.span.start ' ' ++ '^' :: List.replicate tildes '~' ∧
        tildes + 1 = max 1 (e.span.slice source.toList).length) ∧
    ∀ s : Span, s.markerSteps? source.toList.length = some (s.marker source.toList.length) ∧
      (s.underline source).toList =
        Span.flatten source.toList ++ '\n' :: s.marker source.toList.length ∧
      ∃ column tildes, column ≤ source.toList.length ∧ s.marker source.toList.length =
        List.replicate column ' ' ++ '^' :: List.replicate tildes '~' := by
  constructor
  · intro e he
    obtain ⟨before, hlines⟩ := e.exists_lines_render wording source
    obtain ⟨tildes, hmarker, htildes⟩ := e.span.exists_marker source.toList
    rw [Nat.min_eq_left (start_le_of_error he)] at hmarker
    refine ⟨before, _, _, tildes, hlines, ⟨?_, Span.not_mem_flatten _, ?_⟩, hmarker, htildes⟩
    · exact List.length_map _
    · intro i c hc
      simp [Span.flatten, hc]
  · intro s
    obtain ⟨tildes, hmarker, -⟩ := s.exists_marker source.toList
    exact ⟨s.markerSteps?_eq _, s.toList_underline source, _, tildes, Nat.min_le_right _ _, hmarker⟩

/-- A filter on two lines; a key follows the negation on the second one. -/
def twoLineSource : String := String.ofList "%a == 1\n\t&& !%b".toList

theorem Filter.parse_twoLineSource : (parse twoLineSource).result =
    .error (.notWithoutGroup (.value (.tag ⟨"b", .unset⟩)) ⟨12, 15⟩) := by
  rw [ofSource_eq_error]
  unfold Parsing.ofSource twoLineSource Lexer.ofString
  rw [String.toList_ofList]
  decide +kernel

/-- The second line of the source is marked in the columns that it has behind the first one. -/
theorem Filter.error_underlined_second_line :
    (∃ before shown, (ParseError.render .brief twoLineSource (.notWithoutGroup
        (.value (.tag ⟨"b", .unset⟩)) ⟨12, 15⟩)).toList.splitOn '\n' =
          before ++ [shown, "            ^~~".toList] ∧ shown[7]? = some ' ') ∧
      (⟨12, 15⟩ : Span).markerSteps? twoLineSource.toList.length =
        some "            ^~~".toList := by
  obtain ⟨herror, hspan⟩ := error_underlined .brief twoLineSource
  have hsource : twoLineSource.toList = "%a == 1\n\t&& !%b".toList := String.toList_ofList
  obtain ⟨before, shown, marker, tildes, hlines, ⟨-, -, hline⟩, hmarker, htildes⟩ :=
    herror _ parse_twoLineSource
  rw [hsource] at hline htildes
  have hcount : tildes = 2 := Nat.succ.inj (htildes.trans (by decide))
  subst hcount hmarker
  refine ⟨⟨before, shown, hlines, hline 7 '\n' (by decide)⟩, ?_⟩
  rw [(hspan _).1, hsource]
  decide

end TagSieve
