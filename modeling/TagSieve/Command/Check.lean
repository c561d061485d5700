import TagSieve.Command.Error
import TagSieve.Filter
import TagSieve.Json.Parser

/-!
Running a filter on the records of a JSON document.
-/

namespace TagSieve

structure CheckOptions where
  filter : String
  input : Option String
  /-- Only read the filter. -/
  syntaxOnly : Bool
  /-- Keep the records that do not pass. -/
  invert : Bool

inductive CheckResult where
  | syntaxValid
  | selected (records : List Record)

namespace CheckOptions

/-- The records of an optional document. -/
def records : Option String → Except CommandError (List Record)
  | none => .error .noInput
  | some input =>
    match Json.parse input with
    | .error e => .error (.json e)
    | .ok v =>
      match v.toRecords with
      | .error (index, f) => .error (.record index f)
      | .ok rs => .ok rs

/-- Judges records one after another, keeping those that pass or, inverted, those that do not. -/
def sieve (f : Filter) (invert : Bool) : List Record → Traced Event (List Record)
  | [] => .pure []
  | r :: rest =>
    (f.judge r).bind fun b =>
      (sieve f invert rest).map fun kept => if b != invert then r :: kept else kept

/-- Runs a filter on its input, with what is done on the way. -/
def select (o : CheckOptions) (f : Filter) : Traced Event (Except CommandError CheckResult) :=
  match records o.input with
  | .error e => .pure (.error e)
  | .ok rs =>
    let kept := sieve f o.invert rs
    ⟨.ok (.selected kept.result),
      .checking f.expr rs.length :: (kept.steps ++ [.selected kept.result.length])⟩

/-- Reads the filter first, so that a malformed one is reported whatever the input is. -/
def run (o : CheckOptions) : Traced Event (Except CommandError CheckResult) :=
  (Filter.parse o.filter).bind fun
    | .error e => .pure (.error (.filter e))
    | .ok f => if o.syntaxOnly then .pure (.ok .syntaxValid) else o.select f

theorem result_sieve (f : Filter) (invert : Bool) (rs : List Record) :
    (sieve f invert rs).result = rs.filter fun r => f.accepts r != invert := by
  induction rs with
  | nil => rfl
  | cons r rest ih =>
    simp only [sieve, Traced.result_bind, Traced.result_map, Filter.result_judge, ih]
    by_cases h : f.accepts r != invert <;> simp [h]

/-- A filter that cannot be read is all that a check looks at. -/
theorem run_of_error {o : CheckOptions} {e : ParseError}
    (h : (Filter.parse o.filter).result = .error e) :
    o.run = ⟨.error (.filter e), (Parsing.ofSource o.filter).read.map .lexed⟩ := by
  have hsource : Filter.ofSource o.filter = .error e := h
  simp [run, Filter.parse, hsource, Traced.bind, Traced.pure]

/-- What a check answers for a filter that can be read. -/
theorem result_run_of_parse {source : String} {f : Filter}
    (h : (Filter.parse source).result = .ok f) (input : Option String)
    (syntaxOnly invert : Bool) :
    (run ⟨source, input, syntaxOnly, invert⟩).result = if syntaxOnly then .ok .syntaxValid
      else (records input).map fun rs => .selected (rs.filter fun r => f.accepts r != invert) := by
  cases syntaxOnly with
  | true => simp [run, h]
  | false =>
    cases hrecords : records input with
    | error e => simp [run, h, select, hrecords, Except.map]
    | ok rs => simp [run, h, select, hrecords, Except.map, result_sieve]

end CheckOptions

end TagSieve
