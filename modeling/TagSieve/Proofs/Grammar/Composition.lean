import TagSieve.Proofs.Canonical.Printing
import TagSieve.Proofs.Evaluation.Verdict
import TagSieve.Proofs.Grammar.Parsing
import TagSieve.Proofs.Token.Spacing

/-! Filters put together as texts: in parentheses each of them keeps its tree and its verdicts,
whatever its last token is. -/
namespace TagSieve

variable {cs rest more : List Char} {ss : List Symbol} {source : String} {d : Disjunction}

/-- The symbols of a text are read in front of more text too, if no token goes on into that. -/
theorem Spells.extend (h : Spells cs ss rest) (hmore : Ends more) :
    Spells (cs ++ more) ss (rest ++ more) := by
  induction h with
  | nil cs => exact .nil _
  | cons h hs _ ih => exact .cons (skipBlanks_extend h hs hmore).1 hs ih

/-- In parentheses a whole source is read as by itself. -/
theorem Lexes.spelled_group (h : Lexes source (.start :: ss)) :
    Spelled True ('(' :: (source.toList ++ [')'])) (.openParen :: (ss ++ [.closeParen])) := by
  obtain ⟨rest, hspells, hrest⟩ := lexes_iff_spells.mp h
  intro more hmore
  refine ⟨fun _ => ?_, fun h => absurd trivial h⟩
  have hclose : Spells (rest ++ ')' :: more) [.closeParen] more := by
    refine .cons (n := 1) ?_ nofun (.nil more)
    rw [(hrest.skip _).1]
    rfl
  have hinner := (hspells.extend (ends_cons rfl more)).append hclose
  have htext : '(' :: (source.toList ++ [')']) ++ more = '(' :: (source.toList ++ ')' :: more) := by
    simp
  rw [htext]
  exact .cons (n := 1) rfl nofun hinner

/-- What is done for a verdict does not depend on where the conditions stand. -/
theorem View.eval_unspanned (v : View) (e : Expr) : v.eval e.unspanned = v.eval e := by
  induction e with
  | not _ _ ih => simp [Expr.unspanned, eval, ih]
  | logical _ op _ _ ihl ihr => cases op <;> simp [Expr.unspanned, eval, ihl, ihr]
  | comparison => rfl

theorem Expr.holds_unspanned (v : View) (e : Expr) : e.unspanned.holds v = e.holds v := by
  rw [holds, v.eval_unspanned, holds]

/-- Two groups with a connective between them. -/
def Disjunction.connect (d d' : Disjunction) : Connective → Disjunction
  | .and => .single (.more (.single (.group d)) (.group d'))
  | .or => .more (.single (.single (.group d))) (.single (.group d'))

namespace Filter

/-- The text is a filter with this tree, spans aside, and it gives these verdicts. -/
def Composes (text : String) (tree : Expr) (verdict : View → Bool) : Prop :=
  ∃ f, (parse text).result = .ok f ∧ f.expr.unspanned = tree ∧ ∀ v, f.expr.holds v = verdict v

theorem composes_of_spelled {text : String} {verdict : View → Bool} (htext : text.toList = cs)
    (h : Spelled True cs d.yield) (hd : d.Obeys) (hverdict : ∀ v, d.tree.holds v = verdict v) :
    Composes text d.tree verdict := by
  obtain rfl : text = String.ofList cs := by rw [← htext, String.ofList_toList]
  have hspells := (h [] ends_nil).1 trivial
  rw [List.append_nil] at hspells
  obtain ⟨f, hf, htree⟩ := exists_of_lexes (lexes_of_spells hspells) hd
  refine ⟨f, hf, htree, fun v => ?_⟩
  rw [← Expr.holds_unspanned, htree, hverdict]

theorem exists_spelled_group (f : Filter) : ∃ d : Disjunction, d.Obeys ∧
    d.tree = f.expr.unspanned ∧
    Spelled True ('(' :: (f.source.toList ++ [')'])) (Simple.group d).yield := by
  obtain ⟨d, hlexes, hobeys, htree⟩ := f.derives
  exact ⟨d, hobeys, htree, hlexes.spelled_group⟩

theorem holds_of_tree {f : Filter} (h : d.tree = f.expr.unspanned) (v : View) :
    d.tree.holds v = f.expr.holds v := by
  rw [h, Expr.holds_unspanned]

theorem composes_group (f : Filter) :
    Composes ("(" ++ f.source ++ ")") f.expr.unspanned f.expr.holds := by
  obtain ⟨d, hobeys, htree, hspelled⟩ := f.exists_spelled_group
  rw [← htree]
  exact composes_of_spelled (d := .single (.single (.group d))) (by simp) hspelled hobeys
    (holds_of_tree htree)

theorem composes_not (f : Filter) :
    Composes ("!(" ++ f.source ++ ")") (.not .zero f.expr.unspanned)
      (fun v => !f.expr.holds v) := by
  obtain ⟨d, hobeys, htree, hspelled⟩ := f.exists_spelled_group
  rw [← htree]
  have hnot : Spelled True ('!' :: '(' :: (f.source.toList ++ [')'])) (Simple.not d).yield := by
    intro more hmore
    refine ⟨fun h => ?_, fun h => absurd trivial h⟩
    exact .cons (n := 1) rfl nofun ((hspelled more hmore).1 h)
  refine composes_of_spelled (d := .single (.single (.not d))) (by simp) hnot hobeys fun v => ?_
  exact congrArg not (holds_of_tree htree v)

theorem composes_logical {text : String} (f g : Filter) (op : Connective)
    (htext : text.toList = '(' :: (f.source.toList ++ [')']) ++
      ' ' :: (op.chars ++ ' ' :: '(' :: (g.source.toList ++ [')']))) :
    Composes text (.logical .zero op f.expr.unspanned g.expr.unspanned)
      fun v => op.combine (f.expr.holds v) (g.expr.holds v) := by
  obtain ⟨d, hobeys, htree, hspelled⟩ := f.exists_spelled_group
  obtain ⟨d', hobeys', htree', hspelled'⟩ := g.exists_spelled_group
  have hop := Spelled.symbol (s := .connective op) trivial
  have hright := hop.spaced hspelled' (Simple.yield_ne_nil (.group d'))
  have hboth : Spelled True _ _ :=
    (hspelled.spaced hright (List.cons_ne_nil _ _)).congr (by simp only [and_self])
  have hconnect : (d.connect d' op).yield =
      (Simple.group d).yield ++ ([.connective op] ++ (Simple.group d').yield) := by
    cases op <;> rfl
  have hconnectTree : (d.connect d' op).tree = .logical .zero op d.tree d'.tree := by
    cases op <;> rfl
  have hconnectObeys : (d.connect d' op).Obeys := by
    cases op <;> exact ⟨hobeys, hobeys'⟩
  rw [← htree, ← htree', ← hconnectTree]
  refine composes_of_spelled htext (hconnect ▸ hboth) hconnectObeys fun v => ?_
  rw [hconnectTree, Expr.holds_logical, holds_of_tree htree, holds_of_tree htree']

/-- Filters compose as texts: in parentheses they are joined and negated to the tree and the
verdicts that this asks for. -/
theorem composes_as_texts (f g : Filter) :
    Composes ("(" ++ f.source ++ ") && (" ++ g.source ++ ")")
      (.logical .zero .and f.expr.unspanned g.expr.unspanned)
      (fun v => f.expr.holds v && g.expr.holds v) ∧
    Composes ("(" ++ f.source ++ ") || (" ++ g.source ++ ")")
      (.logical .zero .or f.expr.unspanned g.expr.unspanned)
      (fun v => f.expr.holds v || g.expr.holds v) ∧
    Composes ("!(" ++ f.source ++ ")") (.not .zero f.expr.unspanned) (fun v => !f.expr.holds v) ∧
    Composes ("(" ++ f.source ++ ")") f.expr.unspanned f.expr.holds := by
  refine ⟨f.composes_logical g .and ?_, f.composes_logical g .or ?_, f.composes_not,
    f.composes_group⟩
  · simp [Connective.chars]
  · simp [Connective.chars]

end Filter

end TagSieve
