import TagSieve.Proofs.Regex.Words

/-! A plain pattern as a group between anchors: it is read as it is read alone, and its tree becomes
the body of the group. -/
namespace TagSieve.Regex

variable {cs rest : List Char} {n : Nat} {t u : Tree} {l : Lexeme} {ls : List Lexeme}
  {scope scope' : Scope} {f : Frame} {s s' : Stack}

namespace Scope

/-- Neither here nor in a group around is the pattern verbose. -/
structure IsPlain (scope : Scope) : Prop where
  verbose : scope.verbose = false
  outer : ∀ v ∈ scope.outer, v = false

/-- The scope with one more group around all others. -/
def enclosed (scope : Scope) : Scope := { scope with outer := scope.outer ++ [false] }

theorem advance_isPlain (h : scope.advance l = some scope') (hl : l.IsPlain)
    (hscope : scope.IsPlain) : scope'.IsPlain := by
  cases l with
  | atom t =>
    cases t with
    | changes cs => exact hl.elim
    | _ =>
      cases h
      exact hscope
  | opening captures cs name =>
    obtain rfl : cs = [] := hl
    simp only [advance] at h
    split at h
    · cases h
    · cases h
      exact ⟨hscope.verbose, List.forall_mem_cons.mpr ⟨hscope.verbose, hscope.outer⟩⟩
  | closing =>
    simp only [advance] at h
    split at h
    · next v outer houter =>
      cases h
      have hall := hscope.outer
      rw [houter] at hall
      exact ⟨hall v List.mem_cons_self, fun w hw => hall w (List.mem_cons_of_mem v hw)⟩
    · cases h
  | bar | times =>
    cases h
    exact hscope

theorem advance_enclosed (h : scope.advance l = some scope') :
    scope.enclosed.advance l = some scope'.enclosed := by
  cases l with
  | atom t =>
    cases t with
    | _ =>
      cases h
      rfl
  | opening captures cs name =>
    simp only [advance] at h ⊢
    split at h
    · cases h
    · next hname =>
      cases h
      exact if_neg hname
  | closing =>
    simp only [advance] at h
    split at h
    · next v outer houter =>
      cases h
      simp [advance, enclosed, houter]
    · cases h
  | bar | times =>
    cases h
    rfl

end Scope

theorem lexemesFrom_nil (n : Nat) (scope : Scope) : lexemesFrom n scope [] = some [] := by
  cases n <;> rfl

theorem lexemesFrom_of_lexeme (hscope : scope.verbose = false)
    (hl : lexeme false cs = some (l, rest)) (hadvance : scope.advance l = some scope')
    (hrest : lexemesFrom n scope' rest = some ls) :
    lexemesFrom (n + 1) scope cs = some (l :: ls) := by
  cases cs with
  | nil => cases hl
  | cons c cs =>
    unfold lexemesFrom
    simp [hscope, skipBlanks_plain, hl, hadvance, hrest]

/-- The words of a text are none, or the first of them and those behind it. -/
theorem exists_of_lexemesFrom (hscope : scope.verbose = false)
    (h : lexemesFrom n scope cs = some ls) :
    (cs = [] ∧ ls = []) ∨ ∃ m l rest scope' ls', n = m + 1 ∧ ls = l :: ls' ∧
      lexeme false cs = some (l, rest) ∧ scope.advance l = some scope' ∧
      lexemesFrom m scope' rest = some ls' := by
  cases cs with
  | nil =>
    rw [lexemesFrom_nil] at h
    exact Or.inl ⟨rfl, (Option.some.inj h).symm⟩
  | cons c cs =>
    unfold lexemesFrom at h
    rw [hscope, skipBlanks_plain] at h
    cases n with
    | zero => cases h
    | succ n =>
      obtain ⟨⟨l, rest⟩, hl, h⟩ := Option.bind_eq_some_iff.mp h
      obtain ⟨scope', hadvance, h⟩ := Option.bind_eq_some_iff.mp h
      obtain ⟨ls', hrest, heq⟩ := Option.bind_eq_some_iff.mp h
      cases heq
      exact Or.inr ⟨n, l, rest, scope', ls', rfl, rfl, hl, hadvance, hrest⟩

theorem lexemesFrom_closing (scope : Scope) (hscope : scope.IsPlain) (n : Nat) :
    lexemesFrom (n + 2) scope.enclosed [')', '$'] =
      some [.closing, .atom (.anchor .lineEnd)] := by
  obtain ⟨outer, houter⟩ : ∃ outer, scope.enclosed.outer = false :: outer := by
    obtain ⟨-, hall⟩ := hscope
    cases houter : scope.outer with
    | nil => exact ⟨[], by simp [Scope.enclosed, houter]⟩
    | cons v outer =>
      obtain rfl := hall v (houter ▸ List.mem_cons_self)
      exact ⟨outer ++ [false], by simp [Scope.enclosed, houter]⟩
  have hclose : scope.enclosed.advance .closing = some ⟨false, outer, scope.names⟩ := by
    simp [Scope.advance, houter]
    rfl
  refine lexemesFrom_of_lexeme hscope.verbose rfl hclose ?_
  exact lexemesFrom_of_lexeme rfl rfl rfl (lexemesFrom_nil n _)

/-- In a group the words of a plain pattern are the same, and the end of the group follows. -/
theorem lexemesFrom_enclosed (h : lexemesFrom n scope cs = some ls) (hls : ∀ l ∈ ls, l.IsPlain)
    (hscope : scope.IsPlain) (k : Nat) :
    lexemesFrom (n + (k + 2)) scope.enclosed (cs ++ [')', '$']) =
      some (ls ++ [.closing, .atom (.anchor .lineEnd)]) := by
  induction n generalizing scope cs ls with
  | zero =>
    rcases exists_of_lexemesFrom hscope.verbose h with ⟨rfl, rfl⟩ | ⟨m, l, rest, scope', ls', hm, -⟩
    · rw [Nat.zero_add]
      exact lexemesFrom_closing scope hscope k
    · exact absurd hm (Nat.succ_ne_zero m).symm
  | succ n ih =>
    rcases exists_of_lexemesFrom hscope.verbose h with
      ⟨rfl, rfl⟩ | ⟨m, l, rest, scope', ls', hm, rfl, hl, hadvance, hrest⟩
    · exact lexemesFrom_closing scope hscope _
    · obtain rfl := Nat.succ.inj hm
      obtain ⟨hplain, hplain'⟩ := List.forall_mem_cons.mp hls
      have hscope' := scope.advance_isPlain hadvance hplain hscope
      have hlonger : lexeme false (cs ++ [')', '$']) = some (l, rest ++ [')', '$']) :=
        lexeme_append hl hplain nofun
      rw [Nat.add_right_comm]
      exact lexemesFrom_of_lexeme hscope.verbose hlonger (Scope.advance_enclosed hadvance)
        (ih hrest hplain' hscope')

/-- The words of a plain pattern as a group between anchors. -/
theorem lexemes_anchored (h : lexemes cs = some ls) (hls : ∀ l ∈ ls, l.IsPlain) :
    lexemes (['^', '(', '?', ':'] ++ cs ++ [')', '$']) =
      some (.atom (.anchor .lineStart) :: .opening false [] none ::
        (ls ++ [.closing, .atom (.anchor .lineEnd)])) := by
  have hstart : Scope.start.IsPlain := ⟨rfl, nofun⟩
  have hinner := lexemesFrom_enclosed h hls hstart 2
  have hsize : (['^', '(', '?', ':'] ++ cs ++ [')', '$']).length = cs.length + (2 + 2) + 1 + 1 := by
    simp
  rw [lexemes, hsize]
  refine lexemesFrom_of_lexeme rfl rfl rfl ?_
  exact lexemesFrom_of_lexeme rfl rfl rfl hinner

namespace Tree

theorem isPlain_of_sequence {ts : List Tree} (h : (sequence ts).IsPlain) :
    ∀ t ∈ ts, t.IsPlain := by
  induction ts with
  | nil => exact nofun
  | cons t ts ih =>
    cases ts with
    | nil => exact List.forall_mem_singleton.mpr h
    | cons u us => exact List.forall_mem_cons.mpr ⟨h.1, ih h.2⟩

theorem isPlain_of_choice {ts : List Tree} (h : (choice t ts).IsPlain) :
    ∀ u ∈ t :: ts, u.IsPlain := by
  induction ts generalizing t with
  | nil => exact List.forall_mem_singleton.mpr h
  | cons u us ih => exact List.forall_mem_cons.mpr ⟨h.1, ih h.2⟩

end Tree

namespace Frame

structure IsPlain (f : Frame) : Prop where
  alternatives : ∀ t ∈ f.alternatives, t.IsPlain
  members : ∀ t ∈ f.members, t.IsPlain

theorem isPlain_of_current (h : f.current.IsPlain) : ∀ t ∈ f.members, t.IsPlain :=
  fun t ht => Tree.isPlain_of_sequence h t (List.mem_reverse.mpr ht)

theorem isPlain_of_body (h : f.body.IsPlain) : f.IsPlain := by
  have hall : ∀ t ∈ f.current :: f.alternatives, t.IsPlain := by
    unfold body at h
    split at h
    · next heq => simp at heq
    · next t ts heq =>
      intro u hu
      rw [← List.mem_reverse, heq] at hu
      exact Tree.isPlain_of_choice h u hu
  obtain ⟨hcurrent, halternatives⟩ := List.forall_mem_cons.mp hall
  exact ⟨halternatives, isPlain_of_current hcurrent⟩

theorem isPlain_of_add (h : (f.add t).IsPlain) : f.IsPlain ∧ t.IsPlain := by
  obtain ⟨ht, hmembers⟩ := List.forall_mem_cons.mp h.members
  exact ⟨⟨h.alternatives, hmembers⟩, ht⟩

/-- What a group was opened with. -/
def opener (f : Frame) : Bool × List Change := (f.captures, f.changes)

/-- A change of a frame keeps what the frame was opened with. What is plain behind it was plain
before, and what it added is plain too. -/
structure Keeps (change : Frame → Option Frame) (Added : Prop) : Prop where
  opener : ∀ f g, change f = some g → g.opener = f.opener
  plain : ∀ f g, change f = some g → g.IsPlain → f.IsPlain ∧ Added

theorem keeps_add (t : Tree) : Keeps (fun f => some (f.add t)) t.IsPlain := by
  constructor
  · rintro f _ ⟨⟩
    rfl
  · rintro f _ ⟨⟩ hg
    exact isPlain_of_add hg

theorem keeps_bar : Keeps (fun f => some f.bar) True := by
  constructor
  · rintro f _ ⟨⟩
    rfl
  · rintro f _ ⟨⟩ hg
    obtain ⟨hcurrent, halternatives⟩ := List.forall_mem_cons.mp hg.alternatives
    exact ⟨⟨halternatives, isPlain_of_current hcurrent⟩, trivial⟩

theorem times?_cases {g : Frame} {least : Nat} {most : Option Nat} {lazy : Bool}
    (h : f.times? least most lazy = some g) : ∃ t ts, f.members = t :: ts ∧
      g = { f with members := .times least most lazy t :: ts } := by
  unfold times? at h
  split at h
  · next t ts hmembers =>
    split at h
    · cases h
      exact ⟨t, ts, hmembers, rfl⟩
    · cases h
  · cases h

theorem keeps_times (least : Nat) (most : Option Nat) (lazy : Bool) :
    Keeps (fun f => f.times? least most lazy) True := by
  constructor
  · intro f g hg
    obtain ⟨t, ts, -, rfl⟩ := times?_cases hg
    rfl
  · intro f g hg hplain
    obtain ⟨t, ts, hmembers, rfl⟩ := times?_cases hg
    obtain ⟨ht, hts⟩ := List.forall_mem_cons.mp hplain.members
    refine ⟨⟨hplain.alternatives, ?_⟩, trivial⟩
    rw [hmembers]
    exact List.forall_mem_cons.mpr ⟨ht, hts⟩

end Frame

namespace Stack

structure IsPlain (s : Stack) : Prop where
  inner : ∀ f ∈ s.inner, f.changes = [] ∧ f.IsPlain
  outermost : s.outermost.IsPlain

/-- The stack with one more group around all others. -/
def enclosed (s : Stack) (around : Frame) : Stack := ⟨s.inner ++ [s.outermost], around⟩

section
variable {change : Frame → Option Frame} {Added : Prop}

theorem update_enclosed (h : s.update change = some s') (around : Frame) :
    (s.enclosed around).update change = some (s'.enclosed around) := by
  obtain ⟨inner, outermost⟩ := s
  cases inner with
  | nil =>
    obtain ⟨g, hg, rfl⟩ := Option.map_eq_some_iff.mp h
    simp [update, enclosed, hg]
  | cons top inner =>
    obtain ⟨g, hg, rfl⟩ := Option.map_eq_some_iff.mp h
    simp [update, enclosed, hg]

theorem opener_of_update (hchange : Frame.Keeps change Added) (h : s.update change = some s') :
    s'.outermost.opener = s.outermost.opener := by
  obtain ⟨inner, outermost⟩ := s
  cases inner with
  | nil =>
    obtain ⟨g, hg, rfl⟩ := Option.map_eq_some_iff.mp h
    exact hchange.opener outermost g hg
  | cons top inner =>
    obtain ⟨g, hg, rfl⟩ := Option.map_eq_some_iff.mp h
    rfl

theorem isPlain_of_update (hchange : Frame.Keeps change Added) (h : s.update change = some s')
    (hs' : s'.IsPlain) : s.IsPlain ∧ Added := by
  obtain ⟨inner, outermost⟩ := s
  cases inner with
  | nil =>
    obtain ⟨g, hg, rfl⟩ := Option.map_eq_some_iff.mp h
    obtain ⟨hf, hadded⟩ := hchange.plain outermost g hg hs'.outermost
    exact ⟨⟨nofun, hf⟩, hadded⟩
  | cons top inner =>
    obtain ⟨g, hg, rfl⟩ := Option.map_eq_some_iff.mp h
    obtain ⟨⟨hchanges, hmembers⟩, hinner⟩ := List.forall_mem_cons.mp hs'.inner
    obtain ⟨hf, hadded⟩ := hchange.plain top g hg hmembers
    have hkept : g.changes = top.changes := congrArg Prod.snd (hchange.opener top g hg)
    exact ⟨⟨List.forall_mem_cons.mpr ⟨⟨hkept ▸ hchanges, hf⟩, hinner⟩, hs'.outermost⟩, hadded⟩

end

theorem step_enclosed (h : s.step l = some s') (around : Frame) :
    (s.enclosed around).step l = some (s'.enclosed around) := by
  cases l with
  | atom | bar | times =>
    simp only [step] at h ⊢
    exact update_enclosed h around
  | opening captures changes name =>
    cases h
    rfl
  | closing =>
    obtain ⟨inner, outermost⟩ := s
    cases inner with
    | nil => cases h
    | cons top inner =>
      simp only [step] at h ⊢
      exact update_enclosed h around

theorem opener_of_step (h : s.step l = some s') : s'.outermost.opener = s.outermost.opener := by
  cases l with
  | atom t => exact opener_of_update (Frame.keeps_add t) h
  | bar => exact opener_of_update Frame.keeps_bar h
  | times least most lazy => exact opener_of_update (Frame.keeps_times least most lazy) h
  | opening captures changes name =>
    cases h
    rfl
  | closing =>
    obtain ⟨inner, outermost⟩ := s
    cases inner with
    | nil => cases h
    | cons top inner =>
      have hkeeps := Frame.keeps_add (.group top.captures top.changes top.body)
      exact opener_of_update (s := ⟨inner, outermost⟩) hkeeps h

/-- What is plain behind a word was plain before it, and so is the word. -/
theorem isPlain_of_step (h : s.step l = some s') (hs' : s'.IsPlain) : s.IsPlain ∧ l.IsPlain := by
  cases l with
  | atom t => exact isPlain_of_update (Frame.keeps_add t) h hs'
  | bar => exact isPlain_of_update Frame.keeps_bar h hs'
  | times least most lazy => exact isPlain_of_update (Frame.keeps_times least most lazy) h hs'
  | opening captures changes name =>
    cases h
    obtain ⟨⟨hchanges, -⟩, hinner⟩ := List.forall_mem_cons.mp hs'.inner
    exact ⟨⟨hinner, hs'.outermost⟩, hchanges⟩
  | closing =>
    obtain ⟨inner, outermost⟩ := s
    cases inner with
    | nil => cases h
    | cons top inner =>
      have hkeeps := Frame.keeps_add (.group top.captures top.changes top.body)
      obtain ⟨⟨hinner, houtermost⟩, hchanges, hbody⟩ := isPlain_of_update hkeeps h hs'
      have htop := Frame.isPlain_of_body hbody
      exact ⟨⟨List.forall_mem_cons.mpr ⟨⟨hchanges, htop⟩, hinner⟩, houtermost⟩, trivial⟩

theorem exists_of_run_cons (h : (l :: ls).foldlM step s = some s') :
    ∃ mid, s.step l = some mid ∧ ls.foldlM step mid = some s' := by
  rw [List.foldlM_cons] at h
  exact Option.bind_eq_some_iff.mp h

theorem run_enclosed (h : ls.foldlM step s = some s') (around : Frame) :
    ls.foldlM step (s.enclosed around) = some (s'.enclosed around) := by
  induction ls generalizing s with
  | nil =>
    cases h
    rfl
  | cons l ls ih =>
    obtain ⟨mid, hmid, h⟩ := exists_of_run_cons h
    rw [List.foldlM_cons]
    exact Option.bind_eq_some_iff.mpr ⟨mid.enclosed around, step_enclosed hmid around, ih h⟩

theorem opener_of_run (h : ls.foldlM step s = some s') :
    s'.outermost.opener = s.outermost.opener := by
  induction ls generalizing s with
  | nil =>
    cases h
    rfl
  | cons l ls ih =>
    obtain ⟨mid, hmid, h⟩ := exists_of_run_cons h
    rw [ih h, opener_of_step hmid]

/-- The stack of a pattern that stands as a group between anchors. -/
theorem run_anchored (h : ls.foldlM step start = some s) (hinner : s.inner = []) :
    (.atom (.anchor .lineStart) :: .opening false [] none ::
      (ls ++ [.closing, .atom (.anchor .lineEnd)])).foldlM step start =
        some ⟨[], ⟨false, [], [],
          [.anchor .lineEnd, .group false [] s.outermost.body, .anchor .lineStart]⟩⟩ := by
  obtain ⟨inner, captures, changes, alternatives, members⟩ := s
  obtain rfl : inner = [] := hinner
  obtain ⟨rfl, rfl⟩ := Prod.mk.inj (opener_of_run h : (captures, changes) = (false, []))
  have hrun := run_enclosed h ((Frame.start false []).add (.anchor .lineStart))
  change (ls ++ [Lexeme.closing, .atom (.anchor .lineEnd)]).foldlM step
    (start.enclosed ((Frame.start false []).add (.anchor .lineStart))) = _
  rw [List.foldlM_append, hrun]
  rfl

/-- In the run of a pattern with a plain tree every word is plain. -/
theorem isPlain_of_run (h : ls.foldlM step s = some s') (hs' : s'.IsPlain) :
    s.IsPlain ∧ ∀ l ∈ ls, l.IsPlain := by
  induction ls generalizing s with
  | nil =>
    cases h
    exact ⟨hs', nofun⟩
  | cons l ls ih =>
    obtain ⟨mid, hmid, h⟩ := exists_of_run_cons h
    obtain ⟨hplain, hls⟩ := ih h
    obtain ⟨hs, hl⟩ := isPlain_of_step hmid hplain
    exact ⟨hs, List.forall_mem_cons.mpr ⟨hl, hls⟩⟩

end Stack

theorem exists_of_parse? (h : parse? cs = some t) : ∃ ls s, lexemes cs = some ls ∧
    ls.foldlM Stack.step Stack.start = some s ∧ s.inner = [] ∧ s.outermost.body = t := by
  obtain ⟨ls, hls, h⟩ := Option.bind_eq_some_iff.mp h
  obtain ⟨s, hs, h⟩ := Option.bind_eq_some_iff.mp h
  obtain ⟨u, hu, h⟩ := Option.bind_eq_some_iff.mp h
  unfold Stack.finish? at hu
  split at hu
  · next hinner =>
    cases hu
    split at h
    · cases h
      exact ⟨ls, s, hls, hs, List.isEmpty_iff.mp hinner, rfl⟩
    · cases h
  · cases hu

/-- A plain pattern as a group between anchors has its tree as the body of that group. -/
theorem parse?_anchored (h : parse? cs = some t) (ht : t.IsPlain)
    (hu : parse? (['^', '(', '?', ':'] ++ cs ++ [')', '$']) = some u) :
    u = .cat (.anchor .lineStart) (.cat (.group false [] t) (.anchor .lineEnd)) := by
  obtain ⟨ls, s, hlexemes, hrun, hinner, rfl⟩ := exists_of_parse? h
  obtain ⟨ls', s', hlexemes', hrun', -, rfl⟩ := exists_of_parse? hu
  have hs : s.IsPlain := ⟨by simp [hinner], Frame.isPlain_of_body ht⟩
  obtain ⟨-, hls⟩ := Stack.isPlain_of_run hrun hs
  obtain rfl := Option.some.inj (hlexemes'.symm.trans (lexemes_anchored hlexemes hls))
  obtain rfl := Option.some.inj (hrun'.symm.trans (Stack.run_anchored hrun hinner))
  rfl

end TagSieve.Regex
