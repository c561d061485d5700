import TagSieve.Proofs.Token.Layout

/-! Blanks between tokens. Texts that are one token each are read one behind the other where blanks
stand between them, and where blanks already stand they can be exchanged for others. -/
namespace TagSieve

variable {cs more rest gap front mid back trail : List Char} {ts : List Token} {s : Symbol}
  {n p : Nat} {l : Lexer} {span : Span} {pieces : List Piece}

def IsBlank (cs : List Char) : Prop := ∀ c ∈ cs, Unicode.isWhitespace c = true

instance : Decidable (IsBlank cs) := List.decidableBAll _ cs

theorem skipBlanks_eq_nil_iff : skipBlanks cs = [] ↔ IsBlank cs := List.dropWhile_eq_nil_iff

theorem IsBlank.skip (h : IsBlank gap) (cs : List Char) :
    skipBlanks (gap ++ cs) = skipBlanks cs ∧ blanks (gap ++ cs) = gap.length + blanks cs := by
  refine ⟨List.dropWhile_append_of_pos h, ?_⟩
  rw [blanks, List.takeWhile_append_of_pos h, List.length_append, blanks]

theorem IsBlank.ends (h : IsBlank gap) : Ends gap := by
  intro c hc
  simp [isBoundary, h c (List.mem_of_mem_head? hc)]

theorem IsBlank.ends_append (h : IsBlank gap) (hne : gap ≠ []) (cs : List Char) :
    Ends (gap ++ cs) := by
  obtain ⟨c, gap, rfl⟩ := List.exists_cons_of_ne_nil hne
  exact ends_cons (h.ends c rfl) _

/-- From a position on the text is read as the tokens, up to its end. -/
def Fills (p : Nat) (cs : List Char) (ts : List Token) : Prop :=
  ∃ rest, Lays p cs ts rest ∧ IsBlank rest

theorem Lexer.reads_iff_fills (hl : l.started = true) :
    l.Reads ts span ↔ Fills l.position l.rest ts ∧
      span = ⟨l.position + l.rest.length, l.position + l.rest.length⟩ := by
  rw [reads_iff_lays hl]
  constructor
  · rintro ⟨rest, hlays, hrest, rfl⟩
    exact ⟨⟨rest, hlays, skipBlanks_eq_nil_iff.mp hrest⟩, rfl⟩
  · rintro ⟨⟨rest, hlays, hrest⟩, rfl⟩
    exact ⟨rest, hlays, skipBlanks_eq_nil_iff.mpr hrest, rfl⟩

namespace Fills

theorem nil (p : Nat) (h : IsBlank cs) : Fills p cs [] := ⟨cs, .nil p cs, h⟩

theorem cons (h : readToken (skipBlanks cs) = .ok s n rest) (hs : s ≠ .finish)
    (hts : Fills (p + blanks cs + n) rest ts) :
    Fills p cs (⟨s, ⟨p + blanks cs, p + blanks cs + n⟩⟩ :: ts) := by
  obtain ⟨last, hlays, hlast⟩ := hts
  exact ⟨last, .cons h hs hlays, hlast⟩

/-- Blanks at the front are taken with the token behind them. -/
theorem blank (hgap : IsBlank gap) (h : Fills (p + gap.length) cs ts) : Fills p (gap ++ cs) ts := by
  obtain ⟨hskip, hblanks⟩ := hgap.skip cs
  obtain ⟨last, hlays, hlast⟩ := h
  cases hlays with
  | nil =>
    refine .nil p ?_
    rwa [← skipBlanks_eq_nil_iff, hskip, skipBlanks_eq_nil_iff]
  | cons h hs hts =>
    rw [Nat.add_assoc p, ← hblanks] at hts ⊢
    exact .cons (hskip.symm ▸ h) hs ⟨last, hts, hlast⟩

/-- What stands behind a token and does not go on with it is read on its own. -/
theorem token_append (h : readToken (skipBlanks cs) = .ok s n rest) (hs : s ≠ .finish)
    (hrest : IsBlank rest) (hmore : Ends more) (hts : Fills (p + cs.length) more ts) :
    Fills p (cs ++ more) (⟨s, ⟨p + blanks cs, p + blanks cs + n⟩⟩ :: ts) := by
  obtain ⟨hread, hblanks⟩ := skipBlanks_extend h hs hmore
  have hlen := (length_of_readToken h hs).2.length_add
  rw [← hlen, ← Nat.add_assoc, ← Nat.add_assoc] at hts
  rw [← hblanks] at hts ⊢
  exact .cons hread hs (hts.blank hrest)

end Fills

/-- A source is a text of some symbols if reading them leaves only blanks. -/
theorem lexes_iff_spells {source : String} {ss : List Symbol} :
    Lexes source (.start :: ss) ↔ ∃ rest, Spells source.toList ss rest ∧ IsBlank rest := by
  constructor
  · rintro ⟨ts, span, hts, hsymbols⟩
    obtain ⟨us, rfl, hus⟩ := Lexer.reads_ofString.mp hts
    obtain ⟨⟨rest, hlays, hrest⟩, -⟩ := (Lexer.reads_iff_fills rfl).mp hus
    obtain rfl := (List.cons.inj hsymbols).2
    exact ⟨rest, hlays.spells, hrest⟩
  · rintro ⟨rest, hspells, hrest⟩
    obtain ⟨ts, span, hts, rfl⟩ := Lexer.reads_of_spells (l := ⟨source.toList, 0, true⟩) rfl hspells
      (skipBlanks_eq_nil_iff.mpr hrest)
    exact ⟨_, span, Lexer.reads_ofString.mpr ⟨ts, rfl, hts⟩, rfl⟩

/-- A text that makes up a token, with what stands before it. -/
structure Piece where
  gap : List Char
  text : List Char
  token : Token

/-- The text by itself is read as the token. -/
def Piece.Alone (x : Piece) : Prop :=
  ∃ last, (Lexer.ofString (String.ofList x.text)).Reads [⟨.start, ⟨0, 0⟩⟩, x.token] last

/-- The text of pieces one behind the other. -/
def spaced (pieces : List Piece) : List Char := pieces.flatMap fun x => x.gap ++ x.text

/-- The tokens of pieces from a position on, each moved by the offset of its text. -/
def placed : Nat → List Piece → List Token
  | _, [] => []
  | p, x :: pieces =>
    x.token.shift (p + x.gap.length) :: placed (p + x.gap.length + x.text.length) pieces

theorem Piece.Alone.exists_readToken {x : Piece} (h : x.Alone) : ∃ s n rest,
    readToken (skipBlanks x.text) = .ok s n rest ∧ s ≠ .finish ∧ IsBlank rest ∧
      x.token = ⟨s, ⟨blanks x.text, blanks x.text + n⟩⟩ := by
  obtain ⟨gap, text, token⟩ := x
  obtain ⟨last, hreads⟩ := h
  obtain ⟨us, hus, hreads⟩ := Lexer.reads_ofString.mp hreads
  obtain rfl := (List.cons.inj hus).2
  obtain ⟨⟨rest, hlays, hrest⟩, -⟩ := (Lexer.reads_iff_fills rfl).mp hreads
  change Lays 0 (String.ofList text).toList [token] rest at hlays
  rw [String.toList_ofList] at hlays
  cases hlays with
  | cons hread hs hnil =>
    cases hnil
    exact ⟨_, _, _, hread, hs, hrest, by rw [Nat.zero_add]⟩

/-- No token goes on into the gap before the next piece, nor into the end. -/
theorem ends_spaced (hgap : ∀ x ∈ pieces, IsBlank x.gap ∧ x.gap ≠ []) (htrail : IsBlank trail) :
    Ends (spaced pieces ++ trail) := by
  cases pieces with
  | nil => exact htrail.ends
  | cons x pieces =>
    obtain ⟨hblank, hne⟩ := hgap x List.mem_cons_self
    have htext : spaced (x :: pieces) ++ trail = x.gap ++ (x.text ++ (spaced pieces ++ trail)) := by
      simp [spaced]
    exact htext ▸ hblank.ends_append hne _

theorem fills_spaced (halone : ∀ x ∈ pieces, x.Alone) (hblank : ∀ x ∈ pieces, IsBlank x.gap)
    (hgap : ∀ x ∈ pieces.tail, x.gap ≠ []) (htrail : IsBlank trail) (p : Nat) :
    Fills p (spaced pieces ++ trail) (placed p pieces) := by
  induction pieces generalizing p with
  | nil => exact .nil p htrail
  | cons x pieces ih =>
    obtain ⟨s, n, rest, hread, hs, hrest, htoken⟩ :=
      (halone x List.mem_cons_self).exists_readToken
    have hends : Ends (spaced pieces ++ trail) :=
      ends_spaced (fun y hy => ⟨hblank y (List.mem_cons_of_mem x hy), hgap y hy⟩) htrail
    have hfills := ih (fun y hy => halone y (List.mem_cons_of_mem x hy))
      (fun y hy => hblank y (List.mem_cons_of_mem x hy))
      (fun y hy => hgap y (List.mem_of_mem_tail hy)) (p + x.gap.length + x.text.length)
    have htext : spaced (x :: pieces) ++ trail = x.gap ++ (x.text ++ (spaced pieces ++ trail)) := by
      simp [spaced]
    rw [htext, placed, htoken, Token.shift, Span.shift, ← Nat.add_assoc]
    exact (Fills.token_append hread hs hrest hends hfills).blank (hblank x List.mem_cons_self)

/-- In a source a stretch that no token reaches into is exchanged for blanks. There is at least one
of them, unless the stretch is empty. -/
inductive Respaces : String → String → Prop
  | mk {front mid back gap : List Char} {ts : List Token} {last : Span}
    (hts : (Lexer.ofString (String.ofList (front ++ (mid ++ back)))).Reads ts last)
    (hout : ∀ t ∈ ts, t.span.stop ≤ front.length ∨ front.length + mid.length ≤ t.span.start)
    (hgap : IsBlank gap) (hne : mid ≠ [] → gap ≠ []) :
    Respaces (String.ofList (front ++ (mid ++ back))) (String.ofList (front ++ (gap ++ back)))

theorem isBlank_of_le_blanks (h : front.length ≤ blanks (front ++ more)) : IsBlank front := by
  have hfront : front <+: (front ++ more).takeWhile Unicode.isWhitespace :=
    List.prefix_of_prefix_length_le (List.prefix_append front more) (List.takeWhile_prefix _) h
  exact fun c hc => List.mem_takeWhile_imp (hfront.mem hc)

/-- A token that ends within a front of the text is read off that front alone. -/
theorem readToken_within (h : readToken (skipBlanks (front ++ more)) = .ok s n rest)
    (hs : s ≠ .finish) (hle : blanks (front ++ more) + n ≤ front.length) :
    ∃ front', rest = front' ++ more ∧ readToken (skipBlanks front) = .ok s n front' ∧
      blanks (front ++ more) + n + front'.length = front.length := by
  obtain ⟨-, taken, htaken, hsplit⟩ := length_of_readToken h hs
  obtain ⟨front', rfl⟩ : taken <+: front := List.prefix_of_prefix_length_le
    (hsplit ▸ List.prefix_append taken rest) (List.prefix_append front more) (by omega)
  rw [List.append_assoc] at hsplit
  obtain rfl := List.append_cancel_left hsplit
  refine ⟨front', rfl, (skipBlanks_shorten h hs).1, ?_⟩
  rw [List.length_append, htaken]

/-- The blanks in front of a token can be exchanged for others. -/
theorem skipBlanks_exchange (h : front.length + mid.length ≤ blanks (front ++ (mid ++ back)))
    (hgap : IsBlank gap) :
    skipBlanks (front ++ (gap ++ back)) = skipBlanks (front ++ (mid ++ back)) := by
  rw [← List.append_assoc, ← List.length_append] at h
  have hblank := isBlank_of_le_blanks h
  have hfront : IsBlank front := fun c hc => hblank c (List.mem_append_left mid hc)
  rw [(hfront.skip _).1, (hgap.skip _).1, ← List.append_assoc, (hblank.skip _).1]

theorem IsBlank.exchange (h : IsBlank (front ++ (mid ++ back))) (hgap : IsBlank gap) :
    IsBlank (front ++ (gap ++ back)) := by
  intro c hc
  simp only [List.mem_append] at hc
  rcases hc with hc | hc | hc
  · exact h c (List.mem_append_left _ hc)
  · exact hgap c hc
  · exact h c (List.mem_append_right _ (List.mem_append_right _ hc))

/-- Tokens before the exchanged stretch are read in front of the new blanks, and those behind it
after them. -/
theorem Lays.respace (h : Lays p (front ++ (mid ++ back)) ts rest) (hrest : IsBlank rest)
    (hout : ∀ t ∈ ts, t.span.stop ≤ p + front.length ∨
      p + front.length + mid.length ≤ t.span.start)
    (hgap : IsBlank gap) (hne : gap ≠ []) :
    ∃ last, Spells (front ++ (gap ++ back)) (ts.map Token.symbol) last ∧ IsBlank last := by
  generalize hcs : front ++ (mid ++ back) = cs at h
  induction h generalizing front with
  | nil p cs =>
    subst hcs
    exact ⟨_, .nil _, hrest.exchange hgap⟩
  | @cons p n cs after rest s ts h hs hts ih =>
    subst hcs
    have hfirst := hout _ List.mem_cons_self
    dsimp only at hfirst
    rcases hfirst with hbefore | hbehind
    · obtain ⟨front', rfl, hread, hlen⟩ := readToken_within h hs (by omega)
      obtain ⟨hread', -⟩ := skipBlanks_extend hread hs (hgap.ends_append hne back)
      have hlater : ∀ t ∈ ts,
          t.span.stop ≤ p + blanks (front ++ (mid ++ back)) + n + front'.length ∨
            p + blanks (front ++ (mid ++ back)) + n + front'.length + mid.length ≤ t.span.start := by
        intro t ht
        have := hout t (List.mem_cons_of_mem _ ht)
        omega
      obtain ⟨last, hspells, hlast⟩ := ih hrest hlater rfl
      exact ⟨last, .cons hread' hs hspells, hlast⟩
    · -- No token stands before the stretch, and so all before it is blank.
      have hlen : front.length + mid.length ≤ blanks (front ++ (mid ++ back)) := by omega
      have hskip := skipBlanks_exchange hlen hgap
      exact ⟨rest, .cons (hskip.symm ▸ h) hs hts.spells, hrest⟩

theorem Respaces.lexes {source source' : String} {ss : List Symbol} (h : Respaces source source')
    (hss : Lexes source ss) : Lexes source' ss := by
  obtain ⟨us, _, hus, rfl⟩ := hss
  cases h with
  | @mk front mid back gap ts last hts hout hgap hne =>
    obtain ⟨rfl, -⟩ := hus.unique hts
    by_cases hempty : gap = []
    · obtain rfl : mid = [] := not_not.mp (mt hne (not_not.mpr hempty))
      exact hempty ▸ ⟨_, _, hts, rfl⟩
    · obtain ⟨ts, rfl, hreads⟩ := Lexer.reads_ofString.mp hts
      obtain ⟨⟨rest, hlays, hrest⟩, -⟩ := (Lexer.reads_iff_fills rfl).mp hreads
      simp only [String.toList_ofList] at hlays
      have hout' : ∀ t ∈ ts, t.span.stop ≤ 0 + front.length ∨
          0 + front.length + mid.length ≤ t.span.start := by
        rw [Nat.zero_add]
        exact fun t ht => hout t (List.mem_cons_of_mem _ ht)
      obtain ⟨last, hspells, hlast⟩ := hlays.respace hrest hout' hgap hempty
      rw [← String.toList_ofList (l := front ++ (gap ++ back))] at hspells
      exact lexes_iff_spells.mpr ⟨last, hspells, hlast⟩

end TagSieve
