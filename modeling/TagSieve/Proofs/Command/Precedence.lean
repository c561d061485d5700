import TagSieve.Command.Invocation
import TagSieve.Proofs.Grammar.FirstFault

/-! Which error a check reports. The filter is read before the input is, except that a standard
input has to be text before anything else. -/
namespace TagSieve

variable {o : CheckOptions} {e : ParseError} {input : Option String} {stdin : ByteArray}
  (wording : RegexWording)

/-- The report of a filter starts with the name of the part that refused it. -/
theorem ParseError.head?_render (e : ParseError) (source : String) :
    (e.render wording source).toList.head? = some 'l' ∨
      (e.render wording source).toList.head? = some 'p' := by
  cases e with
  | lex e =>
    have htext : render wording source (lex e) =
        "lexer error: " ++ e.message wording ++ "\n" ++ e.span.underline source := rfl
    left
    simp only [htext, String.toList_append]
    rfl
  | _ =>
    right
    simp only [render, String.toList_append]
    rfl

theorem CommandError.head?_render_notText (source : String) :
    (notText.render wording source).toList.head? = some 'e' := by
  simp only [render, String.toList_append]
  rfl

/-- No report of a filter is that of a standard input that is no text. -/
theorem ParseError.render_ne_notText (e : ParseError) (source line : String) :
    e.render wording source ++ line ≠ CommandError.notText.render wording source ++ line := by
  intro h
  have hhead := congrArg (fun s : String => s.toList.head?) h
  have hnotText := CommandError.head?_render_notText wording source
  rcases e.head?_render wording source with hfilter | hfilter
  · simp only [String.toList_append, List.head?_append, hfilter, hnotText] at hhead
    cases hhead
  · simp only [String.toList_append, List.head?_append, hfilter, hnotText] at hhead
    cases hhead

namespace Invocation

/-- The log of a filter that is not accepted has lines of tracing only. -/
theorem logText_lexed (ts : List Token) : logText (ts.map .lexed) = "" := by
  have hlines : ∀ line ∈ Event.lines (ts.map .lexed), line.1 = .trace := by
    intro line hline
    obtain ⟨event, hevent, hmessage⟩ := List.mem_filterMap.mp hline
    obtain ⟨t, -, rfl⟩ := List.mem_map.mp hevent
    obtain ⟨text, -, rfl⟩ := Option.map_eq_some_iff.mp hmessage
    rfl
  unfold logText
  rw [List.filterMap_eq_nil_iff.mpr ?hidden]
  · rfl
  case hidden =>
    intro line hline
    have htrace := hlines line hline
    simp only [htrace, reduceCtorEq, if_false]

theorem run_malformed (h : (Filter.parse o.filter).result = .error e)
    (hinput : withInput o stdin = .ok { o with input := input }) (verbose json pretty : Bool) :
    run wording ⟨verbose, .check o json pretty⟩ stdin = ⟨1, "", e.render wording o.filter ++ "\n"⟩ := by
  have hrun : CheckOptions.run { o with input := input } =
      ⟨.error (.filter e), (Parsing.ofSource o.filter).read.map .lexed⟩ :=
    CheckOptions.run_of_error h
  have hlog : (if verbose then logText (CheckOptions.run { o with input := input }).steps
      else "") = "" := by
    cases verbose with
    | false => rfl
    | true =>
      rw [hrun]
      exact logText_lexed _
  rw [run_check hinput wording, hlog]
  simp only [hrun, String.empty_append]
  rfl

theorem run_notText wording (hinput : withInput o stdin = .error .notText) (verbose json pretty : Bool) :
    run wording ⟨verbose, .check o json pretty⟩ stdin =
      ⟨1, "", CommandError.notText.render wording o.filter ++ "\n"⟩ := by
  have hlog : (if verbose then logText [] else "") = "" := by
    cases verbose with
    | false => rfl
    | true => exact logText_lexed []
  simp only [run, Command.result, hinput, Traced.pure, hlog, String.empty_append]

theorem run_notText_ne wording (hinput : withInput o stdin = .error .notText) (e : ParseError)
    (verbose json pretty : Bool) :
    run wording ⟨verbose, .check o json pretty⟩ stdin ≠ ⟨1, "", e.render wording o.filter ++ "\n"⟩ := by
  intro hreport
  have hrun := run_notText wording hinput verbose json pretty
  have hstderr := congrArg Outcome.stderr (hreport.symm.trans hrun)
  exact e.render_ne_notText wording o.filter "\n" hstderr

/-- A malformed filter is what a check reports, and all that it prints, unless the check reads a
standard input that is no text: then it reports that instead. -/
theorem malformed_reported_iff (h : (Filter.parse o.filter).result = .error e)
    (verbose json pretty : Bool) (stdin : ByteArray) :
    (run wording ⟨verbose, .check o json pretty⟩ stdin = ⟨1, "", e.render wording o.filter ++ "\n"⟩ ↔
        o.input.isSome ∨ o.syntaxOnly ∨ (String.fromUTF8? stdin).isSome) ∧
      (¬ (o.input.isSome ∨ o.syntaxOnly ∨ (String.fromUTF8? stdin).isSome) →
        run wording ⟨verbose, .check o json pretty⟩ stdin =
          ⟨1, "", "error: IO error: stream did not contain valid UTF-8\n"⟩) := by
  rcases withInput_cases o stdin with ⟨hreadable, input, hinput⟩ | ⟨hbad, hinput⟩
  · have hrun := run_malformed wording h (hinput o.filter) verbose json pretty
    refine ⟨⟨fun _ => hreadable, fun _ => hrun⟩, ?_⟩
    intro hbad
    exact absurd hreadable hbad
  · have hrun := run_notText wording (hinput o.filter) verbose json pretty
    have hother := run_notText_ne wording (hinput o.filter) e verbose json pretty
    exact ⟨⟨fun hreport => absurd hreport hother, fun hreadable => absurd hreadable hbad⟩,
      fun _ => hrun⟩

/-- A filter that ends where a value is expected. -/
def valuelessSource : String := String.ofList "%a ==".toList

def valuelessError : ParseError := .unexpected .value .finish ⟨5, 5⟩

theorem parse_valuelessSource : (Filter.parse valuelessSource).result = .error valuelessError := by
  rw [Filter.ofSource_eq_error]
  unfold Parsing.ofSource valuelessSource Lexer.ofString
  rw [String.toList_ofList]
  decide +kernel

/-- An input that is no JSON is not looked at. -/
theorem malformed_reported_valueless :
    (Filter.parse valuelessSource).result = .error valuelessError ∧
      run .brief ⟨true, .check ⟨valuelessSource, none, false, true⟩ true false⟩ "oops".toUTF8 =
        ⟨1, "", valuelessError.render .brief valuelessSource ++ "\n"⟩ := by
  have hdecoded : String.fromUTF8? "oops".toUTF8 = some "oops" := dif_pos "oops".isValidUTF8
  have hreadable : (String.fromUTF8? "oops".toUTF8).isSome := by rw [hdecoded]; rfl
  have hreported := malformed_reported_iff .brief (o := ⟨valuelessSource, none, false, true⟩)
    parse_valuelessSource true true false "oops".toUTF8
  exact ⟨parse_valuelessSource, hreported.1.mpr (.inr (.inr hreadable))⟩

/-- The one byte `ff` is no text, so nothing is said about the filter. -/
theorem malformed_unreported_valueless :
    (Filter.parse valuelessSource).result = .error valuelessError ∧
      run .brief ⟨false, .check ⟨valuelessSource, none, false, false⟩ false false⟩ ⟨#[0xff]⟩ ≠
        ⟨1, "", valuelessError.render .brief valuelessSource ++ "\n"⟩ := by
  have hundecoded : String.fromUTF8? ⟨#[0xff]⟩ = none := by decide +kernel
  have hinput : withInput ⟨valuelessSource, none, false, false⟩ ⟨#[0xff]⟩ = .error .notText := by
    simp [withInput, hundecoded]
  exact ⟨parse_valuelessSource, run_notText_ne .brief hinput valuelessError false false false⟩

end Invocation

end TagSieve
