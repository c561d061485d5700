import TagSieve.Event
import TagSieve.Expr.Parser

/-!
Filters ready to be used on records.
-/

namespace TagSieve

/-- A filter with its source, kept to show errors in context. -/
structure Filter where
  source : String
  expr : Expr
  parsed : (Parsing.ofSource source).outcome = .ok expr

namespace Filter

/-- The filter of a source, or the first thing that is wrong with it. -/
def ofSource (source : String) : Except ParseError Filter :=
  match h : (Parsing.ofSource source).outcome with
  | .ok e => .ok ⟨source, e, h⟩
  | .error e => .error e

/-- The filter of a source with what was done to read it. -/
def parse (source : String) : Traced Event (Except ParseError Filter) :=
  let outcome := ofSource source
  let lexed := (Parsing.ofSource source).read.map Event.lexed
  ⟨outcome, match outcome with
    | .ok f => lexed ++ [.parsed source f.expr]
    | .error _ => lexed⟩

/-- The canonical form, which reads back as the same tree. -/
def text (f : Filter) : String := f.expr.text

/-- Whether a record passes, with what was done to find out. -/
def judge (f : Filter) (r : Record) : Traced Event Bool :=
  let t := r.view.eval f.expr
  ⟨t.result, t.steps.map (Event.evaluated r.path) ++ [.judged r.path t.result]⟩

/-- Whether a record passes. -/
def accepts (f : Filter) (r : Record) : Bool := f.expr.holds r.view

theorem result_judge (f : Filter) (r : Record) : (f.judge r).result = f.accepts r := rfl

/-- The records that pass, in their order. -/
def select (f : Filter) (records : List Record) : List Record := records.filter f.accepts

end Filter

end TagSieve
