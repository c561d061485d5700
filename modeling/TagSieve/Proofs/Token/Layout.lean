import Mathlib.Data.List.DropRight
import TagSieve.Proofs.Token.Lexing
import TagSieve.Proofs.Token.Truncation

/-! Where the tokens of a text lie. They follow each other with nothing but blanks between them, and
each stretch of text from one token to another is read as the tokens on it. -/
namespace TagSieve

variable {cs rest mid more : List Char} {ts us : List Token} {t : Token} {s : Symbol}
  {k n p q : Nat} {l : Lexer} {span : Span}

/-- The number of blanks at the front of a text. -/
def blanks (cs : List Char) : Nat := (cs.takeWhile Unicode.isWhitespace).length

def Token.shift (k : Nat) (t : Token) : Token := ⟨t.symbol, t.span.shift k⟩

/-- Reading the tokens off the front of a text at a position leaves the rest. -/
inductive Lays : Nat → List Char → List Token → List Char → Prop
  | nil (p : Nat) (cs : List Char) : Lays p cs [] cs
  | cons {p n : Nat} {cs rest rest' : List Char} {s : Symbol} {ts : List Token}
      (h : readToken (skipBlanks cs) = .ok s n rest) (hs : s ≠ .finish)
      (hts : Lays (p + blanks cs + n) rest ts rest') :
      Lays p cs (⟨s, ⟨p + blanks cs, p + blanks cs + n⟩⟩ :: ts) rest'

theorem takes_skipBlanks (cs : List Char) : Takes cs (blanks cs) (skipBlanks cs) :=
  .takeWhile Unicode.isWhitespace cs

theorem skipBlanks_skipBlanks (cs : List Char) : skipBlanks (skipBlanks cs) = skipBlanks cs :=
  List.dropWhile_idempotent _ cs

theorem blanks_skipBlanks (cs : List Char) : blanks (skipBlanks cs) = 0 := by
  have hlen := (takes_skipBlanks (skipBlanks cs)).length_add
  rw [skipBlanks_skipBlanks] at hlen
  omega

/-- A token behind blanks takes something, and it and the blanks take the text up to the rest. -/
theorem length_of_readToken (h : readToken (skipBlanks cs) = .ok s n rest) (hs : s ≠ .finish) :
    0 < n ∧ Takes cs (blanks cs + n) rest := by
  have htaken : Takes _ _ _ := takenFrom_readToken (skipBlanks cs)
  have hsize := readToken_eq_ok (congrArg Reading.outcome h)
  rw [h] at htaken hsize
  rcases hsize with ⟨hfinish, -⟩ | ⟨-, -, hsize, -⟩
  · exact absurd hfinish hs
  · exact ⟨hsize, (takes_skipBlanks cs).trans htaken⟩

namespace Lexer

theorem next_of_readToken (hl : l.started = true)
    (h : readToken (skipBlanks l.rest) = .ok s n rest) :
    l.next = (.ok ⟨s, ⟨l.position + blanks l.rest, l.position + blanks l.rest + n⟩⟩,
      ⟨rest, l.position + blanks l.rest + n, true⟩) := by
  unfold skipBlanks at h
  unfold next
  rw [if_pos hl]
  dsimp only
  rw [h]
  rfl

theorem skipBlanks_of_next_finish (hl : l.started = true) (h : l.next.1 = .ok ⟨.finish, span⟩) :
    skipBlanks l.rest = [] := by
  obtain ⟨n, hread, -⟩ := readToken_of_next hl h
  rcases readToken_eq_ok (congrArg Reading.outcome hread) with ⟨-, hnil⟩ | ⟨-, hfinish, -⟩
  · exact hnil
  · exact absurd rfl hfinish

/-- The end of a text stands behind all its characters. -/
theorem next_of_skipBlanks (hl : l.started = true) (h : skipBlanks l.rest = []) :
    l.next.1 = .ok ⟨.finish, ⟨l.position + l.rest.length, l.position + l.rest.length⟩⟩ := by
  have hread : readToken (skipBlanks l.rest) = .ok .finish 0 [] := by rw [h]; rfl
  have hlen := (takes_skipBlanks l.rest).length_add
  rw [h, List.length_nil, Nat.add_zero] at hlen
  rw [next_of_readToken hl hread, hlen]
  rfl

/-- A lexer gets to the end if it reads the text up to blanks. -/
theorem reads_iff_lays (hl : l.started = true) :
    l.Reads ts span ↔ ∃ rest, Lays l.position l.rest ts rest ∧ skipBlanks rest = [] ∧
      span = ⟨l.position + l.rest.length, l.position + l.rest.length⟩ := by
  constructor
  · intro h
    induction h with
    | finish h =>
      have hnil := skipBlanks_of_next_finish hl h
      rw [next_of_skipBlanks hl hnil] at h
      cases h
      exact ⟨_, .nil _ _, hnil, rfl⟩
    | @token l t ts span h ht hts ih =>
      obtain ⟨n, hread, hstarted⟩ := readToken_of_next hl h
      obtain ⟨-, htaken⟩ := length_of_readToken hread ht
      obtain ⟨rest, hlays, hrest, hspan⟩ := ih hstarted
      have hnext := next_of_readToken hl hread
      rw [hnext] at h hlays hspan
      obtain ⟨x, place⟩ := t
      cases h
      refine ⟨rest, .cons hread ht hlays, hrest, ?_⟩
      rw [hspan, ← htaken.length_add]
      simp only [Nat.add_assoc]
  · rintro ⟨rest, hlays, hrest, rfl⟩
    generalize hp : l.position = p at hlays ⊢
    generalize hcs : l.rest = cs at hlays ⊢
    induction hlays generalizing l with
    | nil p cs =>
      subst hp hcs
      exact .finish (next_of_skipBlanks hl hrest)
    | @cons p n cs rest rest' s ts h hs hts ih =>
      subst hp hcs
      have hnext := next_of_readToken hl h
      obtain ⟨-, htaken⟩ := length_of_readToken h hs
      have hreads := ih (l := l.next.2) (by rw [hnext]) hrest (by rw [hnext]) (by rw [hnext])
      refine .token (by rw [hnext]) hs ?_
      rw [← htaken.length_add]
      simpa only [Nat.add_assoc] using hreads

end Lexer

namespace Lays

theorem takes (h : Lays p cs ts rest) : ∃ n, Takes cs n rest := by
  induction h with
  | nil p cs => exact ⟨0, .refl cs⟩
  | cons h hs _ ih =>
    obtain ⟨n, hn⟩ := ih
    exact ⟨_, (length_of_readToken h hs).2.trans hn⟩

/-- The symbols of a layout. -/
theorem spells (h : Lays p cs ts rest) : Spells cs (ts.map Token.symbol) rest := by
  induction h with
  | nil p cs => exact .nil cs
  | cons h hs _ ih => exact .cons h hs ih

/-- A layout falls into two at each of its tokens. -/
theorem split (h : Lays p cs (ts ++ us) rest) :
    ∃ q mid, Lays p cs ts mid ∧ Lays q mid us rest ∧ q + mid.length = p + cs.length := by
  induction ts generalizing p cs with
  | nil => exact ⟨p, cs, .nil p cs, h, rfl⟩
  | cons t ts ih =>
    cases h with
    | @cons p n cs rest rest' s ts h hs hts =>
      obtain ⟨q, mid, hfront, hback, hlen⟩ := ih hts
      have htaken := (length_of_readToken h hs).2.length_add
      exact ⟨q, mid, .cons h hs hfront, hback, by omega⟩

/-- A text seen from its own start. -/
theorem exists_unshift (h : Lays (k + p) cs ts rest) :
    ∃ us, Lays p cs us rest ∧ us.map (Token.shift k) = ts := by
  generalize hq : k + p = q at h
  induction h generalizing p with
  | nil q cs => exact ⟨[], .nil p cs, rfl⟩
  | @cons q n cs rest rest' s ts h hs _ ih =>
    subst hq
    obtain ⟨us, hus, hmap⟩ := ih (p := p + blanks cs + n) (by simp only [Nat.add_assoc])
    refine ⟨_, .cons h hs hus, ?_⟩
    simp only [List.map_cons, hmap, Token.shift, Span.shift, Nat.add_assoc]

end Lays

/-- Blanks and the token behind them are read the same without the end of the text. -/
theorem skipBlanks_shorten (h : readToken (skipBlanks (cs ++ more)) = .ok s n (rest ++ more))
    (hs : s ≠ .finish) :
    readToken (skipBlanks cs) = .ok s n rest ∧ blanks (cs ++ more) = blanks cs := by
  obtain ⟨hn, htaken⟩ := length_of_readToken h hs
  have hlen := htaken.length_add
  cases hskip : skipBlanks cs with
  | nil =>
    -- The token would have to stand within `more`.
    have hall : ∀ c ∈ cs, Unicode.isWhitespace c = true := List.dropWhile_eq_nil_iff.mp hskip
    have hblanks : cs.length ≤ blanks (cs ++ more) := by
      rw [blanks, List.takeWhile_append_of_pos hall, List.length_append]
      exact Nat.le_add_right _ _
    simp only [List.length_append] at hlen
    omega
  | cons c body =>
    have hhead : ∀ d ∈ (cs.dropWhile Unicode.isWhitespace ++ more).head?,
        Unicode.isWhitespace d = false := by
      intro d hd
      have hnot := List.head?_dropWhile_not Unicode.isWhitespace cs
      change cs.dropWhile Unicode.isWhitespace = c :: body at hskip
      rw [hskip] at hd hnot
      obtain rfl : c = d := Option.some.inj hd
      simpa using hnot
    obtain ⟨htake, hdrop⟩ := takeWhile_append_more cs more hhead
    have hlong : skipBlanks (cs ++ more) = skipBlanks cs ++ more := hdrop
    rw [hlong] at h
    exact ⟨hskip ▸ readToken_shorten h, congrArg List.length htake⟩

/-- Blanks and the token behind them are read the same in front of a text that no token goes on into.
-/
theorem skipBlanks_extend (h : readToken (skipBlanks cs) = .ok s n rest) (hs : s ≠ .finish)
    (hmore : Ends more) : readToken (skipBlanks (cs ++ more)) = .ok s n (rest ++ more) ∧
      blanks (cs ++ more) = blanks cs := by
  have hne : skipBlanks cs ≠ [] := by
    intro hnil
    rw [hnil] at h
    exact hs (Except.ok.inj (congrArg Reading.outcome h)).symm
  have hskip : skipBlanks (cs ++ more) = skipBlanks cs ++ more := by
    unfold skipBlanks at hne ⊢
    rw [List.dropWhile_append, if_neg (by simpa using hne)]
  have hlen := (takes_skipBlanks cs).length_add
  have hlen' := (takes_skipBlanks (cs ++ more)).length_add
  have hread := extends_readToken hne hmore s (congrArg Reading.outcome h)
  rw [h, ← hskip] at hread
  rw [hskip, List.length_append, List.length_append] at hlen'
  exact ⟨hread, by omega⟩

namespace Lays

/-- The tokens of a text do not change with what stands behind them. -/
theorem shorten (h : Lays p (cs ++ more) ts (rest ++ more)) : Lays p cs ts rest := by
  induction ts generalizing p cs with
  | nil =>
    generalize hcs : cs ++ more = whole at h
    generalize hrest : rest ++ more = last at h
    cases h
    obtain rfl := List.append_cancel_right (hcs.trans hrest.symm)
    exact .nil p cs
  | cons t ts ih =>
    generalize hcs : cs ++ more = whole at h
    cases h with
    | @cons p n whole mid rest' s ts h hs hts =>
      subst hcs
      obtain ⟨m, htaken⟩ := hts.takes
      obtain ⟨mid, rfl⟩ := htaken.exists_append
      obtain ⟨hread, hblanks⟩ := skipBlanks_shorten h hs
      rw [hblanks] at hts ⊢
      exact .cons hread hs (ih hts)

theorem start_head (h : Lays p cs (t :: ts) rest) : t.span.start = p + blanks cs := by
  cases h
  rfl

/-- Blanks at the front only move the tokens. -/
theorem skip (h : Lays p cs (t :: ts) rest) : Lays t.span.start (skipBlanks cs) (t :: ts) rest := by
  cases h with
  | @cons p n cs rest rest' s ts h hs hts =>
    have hskip := skipBlanks_skipBlanks cs
    have hblanks := blanks_skipBlanks cs
    have hlays := Lays.cons (p := p + blanks cs) (hskip.symm ▸ h) hs
      (by rwa [hblanks, Nat.add_zero])
    rwa [hblanks, Nat.add_zero] at hlays

/-- The last token stops where reading it stopped. -/
theorem stop_getLast (h : Lays p cs ts rest) (ht : ts.getLast? = some t) :
    t.span.stop + rest.length = p + cs.length := by
  obtain ⟨us, rfl⟩ := List.getLast?_eq_some_iff.mp ht
  obtain ⟨q, mid, -, hlast, hlen⟩ := h.split
  cases hlast with
  | @cons q n mid rest rest' s ts hread hs hts =>
    have htaken := (length_of_readToken hread hs).2.length_add
    cases hts
    simp only
    omega

end Lays

/-- The tokens go from the start of the span to its stop. -/
def Covers (ts : List Token) (span : Span) : Prop :=
  ts.head?.map (·.span.start) = some span.start ∧ ts.getLast?.map (·.span.stop) = some span.stop

theorem Span.slice_append (a b c : List Char) :
    Span.slice ⟨a.length, a.length + b.length⟩ (a ++ (b ++ c)) = b := by
  rw [slice, List.take_length_add_append, List.take_left, List.drop_left]

/-- The stretch of a text under some of its tokens is read as these tokens. -/
theorem Lays.slice {front back : List Token} (h : Lays 0 cs (front ++ (us ++ back)) rest)
    (hus : Covers us span) : Lays span.start (span.slice cs) us [] := by
  obtain ⟨q, mid, hfront, hmid, hlen⟩ := h.split
  obtain ⟨q', tail, hlays, -, -⟩ := hmid.split
  obtain ⟨n, before, -, hcs⟩ := hfront.takes
  obtain ⟨gap, hgap, hblanks⟩ := takes_skipBlanks mid
  obtain ⟨start, stop⟩ := span
  cases us with
  | nil => cases hus.1
  | cons t us =>
    have hskip := hlays.skip
    have hstart : t.span.start = start := Option.some.inj hus.1
    have hhead := hlays.start_head
    obtain ⟨last, hlast, rfl⟩ := Option.map_eq_some_iff.mp hus.2
    have hstop := hlays.stop_getLast hlast
    rw [hstart] at hskip hhead
    obtain ⟨m, taken, -, htaken⟩ := hskip.takes
    subst hhead
    have hslice : Span.slice ⟨q + blanks mid, last.span.stop⟩ cs = taken := by
      have hfrontlen : (before ++ gap).length = q + blanks mid := by
        rw [← hcs, List.length_append] at hlen
        rw [List.length_append]
        omega
      have hstoplen : (before ++ gap).length + taken.length = last.span.stop := by
        rw [← hblanks, ← htaken] at hstop
        simp only [List.length_append] at hstop hfrontlen ⊢
        omega
      rw [← hstoplen, ← hfrontlen, ← hcs, ← hblanks, ← htaken, ← List.append_assoc]
      exact Span.slice_append (before ++ gap) taken tail
    rw [hslice]
    rw [← htaken] at hskip
    exact (show Lays _ (taken ++ tail) _ ([] ++ tail) from hskip).shorten

/-- The character at the offset lies under the span. -/
def Span.Contains (span : Span) (i : Nat) : Prop := span.start ≤ i ∧ i < span.stop

namespace Lays

/-- Every token takes something of what is read. -/
theorem bounded (h : Lays p cs ts rest) : ∀ t ∈ ts,
    p ≤ t.span.start ∧ t.span.start < t.span.stop ∧ t.span.stop + rest.length ≤ p + cs.length := by
  induction h with
  | nil => nofun
  | cons h hs hts ih =>
    obtain ⟨hn, htaken⟩ := length_of_readToken h hs
    have hlen := htaken.length_add
    intro t ht
    rcases List.mem_cons.mp ht with rfl | ht
    · obtain ⟨m, hm⟩ := hts.takes
      have := hm.length_add
      simp only
      omega
    · have := ih t ht
      omega

theorem ordered (h : Lays p cs ts rest) : ts.Pairwise fun a b => a.span.stop ≤ b.span.start := by
  induction h with
  | nil => exact .nil
  | cons h hs hts ih => exact .cons (fun t ht => (hts.bounded t ht).1) ih

/-- What lies under no token is blank. -/
theorem blank_of_outside (h : Lays p cs ts rest) (hrest : skipBlanks rest = []) {i : Nat} {c : Char}
    (hc : cs[i]? = some c) (hout : ∀ t ∈ ts, ¬ t.span.Contains (p + i)) :
    Unicode.isWhitespace c = true := by
  induction h generalizing i with
  | nil p cs => exact List.dropWhile_eq_nil_iff.mp hrest c (List.mem_of_getElem? hc)
  | @cons p n cs rest rest' s ts h hs hts ih =>
    by_cases hi : i < blanks cs
    · have htake : (cs.takeWhile Unicode.isWhitespace)[i]? = some c := by
        rw [← List.takeWhile_append_dropWhile (p := Unicode.isWhitespace) (l := cs)] at hc
        rwa [List.getElem?_append_left hi] at hc
      exact List.mem_takeWhile_imp (List.mem_of_getElem? htake)
    · -- The character stands behind the first token.
      have hbehind : blanks cs + n ≤ i := by
        have := hout _ List.mem_cons_self
        simp only [Span.Contains] at this
        omega
      obtain ⟨taken, htaken, hcs⟩ := (length_of_readToken h hs).2
      rw [← htaken] at hbehind
      rw [← hcs, List.getElem?_append_right hbehind] at hc
      refine ih hrest hc fun t ht => ?_
      have hplace : p + blanks cs + n + (i - taken.length) = p + i := by omega
      rw [hplace]
      exact hout t (List.mem_cons_of_mem _ ht)

/-- Every token is what is read off its own stretch of the text alone. -/
theorem alone (h : Lays 0 cs ts rest) (ht : t ∈ ts) :
    t.span.length = (t.span.slice cs).length ∧
      Lays 0 (t.span.slice cs) [⟨t.symbol, ⟨0, t.span.length⟩⟩] [] := by
  obtain ⟨front, back, rfl⟩ := List.append_of_mem ht
  have hslice : Lays (t.span.start + 0) (t.span.slice cs) [t] [] :=
    Lays.slice (show Lays 0 cs (front ++ ([t] ++ back)) rest from h) ⟨rfl, rfl⟩
  obtain ⟨us, hus, hmap⟩ := hslice.exists_unshift
  obtain ⟨u, rfl, hu⟩ := List.map_eq_singleton_iff.mp hmap
  have hsymbol : u.symbol = t.symbol := congrArg (fun t => t.symbol) hu
  have hstart : t.span.start + u.span.start = t.span.start := congrArg (fun t => t.span.start) hu
  have hstop : t.span.start + u.span.stop = t.span.stop := congrArg (fun t => t.span.stop) hu
  have hlen : u.span.stop + 0 = 0 + (t.span.slice cs).length := hus.stop_getLast rfl
  have hu : u = ⟨t.symbol, ⟨0, t.span.length⟩⟩ := by
    rw [← hsymbol, Span.length, ← hstop, Nat.add_sub_cancel_left]
    have hzero : u.span.start = 0 := by omega
    rw [← hzero]
  rw [hu] at hus
  refine ⟨?_, hus⟩
  rw [Span.length]
  omega

end Lays

namespace Lexer

theorem reads_of_lays {source : String} (h : Lays 0 source.toList ts []) :
    (ofString source).Reads (⟨.start, ⟨0, 0⟩⟩ :: ts)
      ⟨source.toList.length, source.toList.length⟩ := by
  refine reads_ofString.mpr ⟨ts, rfl, (reads_iff_lays rfl).mpr ⟨[], h, rfl, ?_⟩⟩
  rw [Nat.zero_add]

/-- The text under a token is read as this token alone. -/
theorem reads_alone {source : String} (h : Lays 0 source.toList ts rest) (ht : t ∈ ts) :
    (ofString (String.ofList (t.span.slice source.toList))).Reads
      [⟨.start, ⟨0, 0⟩⟩, ⟨t.symbol, ⟨0, t.span.length⟩⟩] ⟨t.span.length, t.span.length⟩ := by
  obtain ⟨hlen, halone⟩ := h.alone ht
  rw [← String.toList_ofList (l := t.span.slice source.toList)] at halone
  have hreads := reads_of_lays halone
  rwa [String.toList_ofList, ← hlen] at hreads

/-- The answers of single calls make up a run to the end. -/
theorem reads_of_calls {l : Lexer} (hts : ∀ t ∈ ts, t.symbol ≠ .finish)
    (h : l.calls (ts.length + 1) = ts.map .ok ++ [.ok ⟨.finish, span⟩]) : l.Reads ts span := by
  induction ts generalizing l with
  | nil => exact .finish (List.cons.inj h).1
  | cons t ts ih =>
    obtain ⟨hnext, hcalls⟩ := List.cons.inj h
    exact .token hnext (hts t List.mem_cons_self)
      (ih (fun u hu => hts u (List.mem_cons_of_mem t hu)) hcalls)

/-- A source that is read to its end is made up of its tokens, one behind the other, and of blanks
around them. Each token takes something, and it is what is read off its stretch of the source alone.
-/
theorem reads_lossless {source : String} {ts : List Token} {last : Span}
    (h : (ofString source).Reads ts last) : ∃ rest, ts = ⟨.start, ⟨0, 0⟩⟩ :: rest ∧
      last = ⟨source.toList.length, source.toList.length⟩ ∧
      (∀ t ∈ rest, t.span.start < t.span.stop ∧ t.span.stop ≤ source.toList.length) ∧
      rest.Pairwise (fun a b => a.span.stop ≤ b.span.start) ∧
      (∀ i c, source.toList[i]? = some c → (∀ t ∈ rest, ¬ t.span.Contains i) →
        Unicode.isWhitespace c = true) ∧
      ∀ t ∈ rest, (ofString (String.ofList (t.span.slice source.toList))).Reads
        [⟨.start, ⟨0, 0⟩⟩, ⟨t.symbol, ⟨0, t.span.length⟩⟩] ⟨t.span.length, t.span.length⟩ := by
  obtain ⟨rest, rfl, hrest⟩ := reads_ofString.mp h
  obtain ⟨blank, hlays, hblank, hlast⟩ := (reads_iff_lays rfl).mp hrest
  refine ⟨rest, rfl, ?_, ?_, hlays.ordered, ?_, ?_⟩
  · simpa using hlast
  · intro t ht
    have hbounds := hlays.bounded t ht
    dsimp only at hbounds
    omega
  · intro i c hc hout
    refine hlays.blank_of_outside hblank hc fun t ht => ?_
    simpa using hout t ht
  · exact fun t ht => reads_alone hlays ht

/-- Tokens side by side: a zero before a number, a key before a string with an escaped quote. -/
def adjacentSource : String := String.ofList "012 <%\x7ba=*|\x7d\"x\\\"\"".toList

def adjacentTokens : List Token :=
  [⟨.start, ⟨0, 0⟩⟩, ⟨.value (.integer 0), ⟨0, 1⟩⟩, ⟨.value (.integer 12), ⟨1, 3⟩⟩,
    ⟨.operator .less, ⟨4, 5⟩⟩, ⟨.value (.tag ⟨"a", .any⟩), ⟨5, 12⟩⟩,
    ⟨.value (.string "x\""), ⟨12, 17⟩⟩]

theorem reads_adjacentSource : (ofString adjacentSource).Reads adjacentTokens ⟨17, 17⟩ := by
  apply reads_of_calls
  · decide
  · unfold adjacentSource ofString
    rw [String.toList_ofList]
    decide +kernel

/-- The string at the end is read alone as it is behind the key that it touches. -/
theorem reads_lossless_adjacent : (ofString adjacentSource).Reads adjacentTokens ⟨17, 17⟩ ∧
    (ofString (String.ofList (Span.slice ⟨12, 17⟩ adjacentSource.toList))).Reads
      [⟨.start, ⟨0, 0⟩⟩, ⟨.value (.string "x\""), ⟨0, 5⟩⟩] ⟨5, 5⟩ := by
  obtain ⟨rest, hts, -, -, -, -, halone⟩ := reads_lossless reads_adjacentSource
  obtain rfl := (List.cons.inj hts).2
  exact ⟨reads_adjacentSource, halone ⟨.value (.string "x\""), ⟨12, 17⟩⟩ (by decide)⟩

end Lexer

end TagSieve
