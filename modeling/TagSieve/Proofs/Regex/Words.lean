import TagSieve.Proofs.Regex.Plain
import TagSieve.Proofs.Token.Boundary

/-! Words of plain patterns. Outside verbose patterns a plain word is read just so in front of more
text, if that does not start with the mark of a lazy repetition or of a group. -/
namespace TagSieve.Regex

variable {cs ds rest more : List Char} {c : Char} {n : Nat} {t : Tree} {l : Lexeme}

/-- Whether a word can stand in a plain pattern. -/
def Lexeme.IsPlain : Lexeme → Prop
  | atom t => t.IsPlain
  | opening _ cs _ => cs = []
  | closing | bar | times _ _ _ => True

/-- The text does not go on with a question mark. -/
def Unasked (more : List Char) : Prop := ∀ tail, more ≠ '?' :: tail

theorem Unasked.append (hcs : Unasked cs) (hmore : Unasked more) : Unasked (cs ++ more) := by
  cases cs with
  | nil => exact hmore
  | cons c cs =>
    rintro tail ⟨⟩
    exact hcs cs rfl

theorem skipBlanks_plain (inComment : Bool) (cs : List Char) :
    skipBlanks false inComment cs = cs := by
  cases cs <;> rfl

theorem takeSpaced_plain (accept : Char → Bool) (cs : List Char) :
    takeSpaced false accept false cs = (cs.takeWhile accept, cs.dropWhile accept) := by
  induction cs with
  | nil => rfl
  | cons c cs ih =>
    rw [takeSpaced, List.takeWhile_cons, List.dropWhile_cons, ih]
    cases accept c <;> rfl

/-- A scan that has stopped before the end stops there in a longer text too. -/
theorem scan_append {q : Char → Bool} (h : cs.dropWhile q = c :: rest) (more : List Char) :
    (cs ++ more).takeWhile q = cs.takeWhile q ∧ (cs ++ more).dropWhile q = c :: (rest ++ more) := by
  have hc := List.head?_dropWhile_not q cs
  rw [h] at hc
  have hhead : ∀ d ∈ (cs.dropWhile q ++ more).head?, q d = false := by
    rw [h]
    rintro _ ⟨⟩
    exact hc
  obtain ⟨htake, hdrop⟩ := takeWhile_append_more cs more hhead
  exact ⟨htake, by rw [hdrop, h, List.cons_append]⟩

theorem hexDigits_append (h : hexDigits false n cs = some (ds, rest)) (more : List Char) :
    hexDigits false n (cs ++ more) = some (ds, rest ++ more) := by
  induction n generalizing cs ds with
  | zero =>
    cases h
    rfl
  | succ n ih =>
    cases cs with
    | nil => cases h
    | cons c cs =>
      simp only [hexDigits, List.cons_append, skipBlanks_plain] at h ⊢
      split at h
      · next hc =>
        obtain ⟨⟨es, rest'⟩, hes, heq⟩ := Option.map_eq_some_iff.mp h
        cases heq
        simp [hc, ih hes]
      · cases h

theorem hexEscape_append (h : hexEscape false (n + 1) cs = some (t, rest)) (more : List Char) :
    hexEscape false (n + 1) (cs ++ more) = some (t, rest ++ more) := by
  unfold hexEscape at h
  split at h
  · next body =>
    rw [takeSpaced_plain] at h
    split at h
    · next d ds tail heq =>
      obtain ⟨htake, hdrop⟩ := Prod.mk.inj heq
      obtain ⟨htake', hdrop'⟩ := scan_append hdrop more
      obtain ⟨c, hc, heq⟩ := Option.map_eq_some_iff.mp h
      cases heq
      simp [hexEscape, takeSpaced_plain, htake', htake, hdrop', hc]
    · cases h
  · next hbrace =>
    obtain ⟨⟨ds, tail⟩, hds, h⟩ := Option.bind_eq_some_iff.mp h
    obtain ⟨c, hc, heq⟩ := Option.map_eq_some_iff.mp h
    cases heq
    cases cs with
    | nil => cases hds
    | cons d cs =>
      have hd : ∀ tail, d :: (cs ++ more) ≠ '\x7b' :: tail := by
        rintro _ ⟨⟩
        exact hbrace cs rfl
      rw [List.cons_append, hexEscape]
      · rw [← List.cons_append, hexDigits_append hds]
        simp [hc]
      · exact hd

theorem not_isPlain_of_propertyEscape {negated : Bool}
    (h : propertyEscape false negated cs = some (t, rest)) : ¬ t.IsPlain := by
  unfold propertyEscape at h
  split at h
  · split at h
    · obtain ⟨_, -, heq⟩ := Option.map_eq_some_iff.mp h
      cases heq
      exact id
    · cases h
  · cases h
  · obtain ⟨_, -, heq⟩ := Option.map_eq_some_iff.mp h
    cases heq
    exact id
  · cases h

theorem not_isPlain_of_boundaryEscape (h : boundaryEscape false cs = some (t, rest)) :
    ¬ t.IsPlain := by
  unfold boundaryEscape at h
  split at h
  · split at h
    · cases h
    · split at h
      · split at h
        · obtain ⟨_, -, heq⟩ := Option.map_eq_some_iff.mp h
          cases heq
          exact id
        · cases h
      · cases h
        exact id
  · cases h
    exact id

/-- What can stand behind a backslash, by how the text behind it is read. -/
inductive EscapeReader : (List Char → Option (Tree × List Char)) → Prop
  | code (n : Nat) : EscapeReader (hexEscape false (n + 1))
  | property (negated : Bool) : EscapeReader (propertyEscape false negated)
  | boundary : EscapeReader (boundaryEscape false)
  | fixed (t : Tree) : EscapeReader fun rest => some (t, rest)
  | refused : EscapeReader fun _ => none

theorem escapeReader_escape (c : Char) : EscapeReader fun rest => escape false (c :: rest) := by
  simp only [escape, skipBlanks_plain]
  split
  all_goals first
    | exact .code _
    | exact .property _
    | exact .boundary
    | exact .fixed _
    | skip
  split
  · exact .fixed _
  · exact .refused

theorem EscapeReader.append {read : List Char → Option (Tree × List Char)}
    (hread : EscapeReader read) (h : read cs = some (t, rest)) (ht : t.IsPlain)
    (more : List Char) : read (cs ++ more) = some (t, rest ++ more) := by
  cases hread with
  | code n => exact hexEscape_append h more
  | property negated => exact absurd ht (not_isPlain_of_propertyEscape h)
  | boundary => exact absurd ht (not_isPlain_of_boundaryEscape h)
  | fixed u =>
    cases h
    rfl
  | refused => cases h

theorem escape_append (h : escape false cs = some (t, rest)) (ht : t.IsPlain) (more : List Char) :
    escape false (cs ++ more) = some (t, rest ++ more) := by
  cases cs with
  | nil => cases h
  | cons c cs => exact (escapeReader_escape c).append h ht more

theorem count_append (h : count false cs = (ds, c :: rest)) (more : List Char) :
    count false (cs ++ more) = (ds, c :: (rest ++ more)) := by
  simp only [count, takeSpaced_plain, Prod.mk.injEq] at h ⊢
  obtain ⟨htake, hdrop⟩ := h
  cases hstart : cs.dropWhile Unicode.isWhitespace with
  | nil =>
    rw [hstart] at hdrop
    cases hdrop
  | cons d body =>
    rw [hstart] at htake hdrop
    rw [(scan_append hstart more).2, ← List.cons_append]
    cases hend : (d :: body).dropWhile Char.isDigit with
    | nil =>
      rw [hend] at hdrop
      cases hdrop
    | cons e tail =>
      rw [hend] at hdrop
      obtain ⟨htake', hdrop'⟩ := scan_append hend more
      rw [htake', hdrop', htake, ← List.cons_append, (scan_append hdrop more).2]
      exact ⟨rfl, rfl⟩

theorem bounds_append {range : Nat × Option Nat} (h : bounds false cs = some (range, rest))
    (more : List Char) : bounds false (cs ++ more) = some (range, rest ++ more) := by
  simp only [bounds, skipBlanks_plain] at h ⊢
  split at h
  · next ds tail heq =>
    obtain ⟨n, hn, heq'⟩ := Option.map_eq_some_iff.mp h
    cases heq'
    simp [count_append heq more, hn]
  · next ds tail heq =>
    rw [count_append heq more]
    split at h
    · obtain ⟨n, hn, heq'⟩ := Option.map_eq_some_iff.mp h
      cases heq'
      simp [hn]
    · next hbrace =>
      split at h
      · next es tail' hcount =>
        obtain ⟨n, hn, h⟩ := Option.bind_eq_some_iff.mp h
        obtain ⟨m, hm, h⟩ := Option.bind_eq_some_iff.mp h
        have hcount' := count_append hcount more
        cases tail with
        | nil => cases hcount
        | cons d tail =>
          simp only [List.cons_append] at hcount' ⊢
          split
          · next heq' =>
            cases heq'
            exact absurd rfl (hbrace tail)
          · rw [hcount']
            split at h
            · next hle =>
              cases h
              simp [hn, hm, hle]
            · cases h
      · cases h
  · cases h

theorem lazyMark_append (hmore : Unasked more) (cs : List Char) :
    lazyMark (cs ++ more) = ((lazyMark cs).1, (lazyMark cs).2 ++ more) := by
  unfold lazyMark
  split
  · next tail heq =>
    cases cs with
    | nil => exact absurd heq (hmore tail)
    | cons c cs =>
      obtain ⟨rfl, rfl⟩ := List.cons.inj heq
      rfl
  · next hmark =>
    split
    · next tail => exact absurd rfl (hmark (tail ++ more))
    · rfl

theorem repetition_append (hmore : Unasked more) (least : Nat) (most : Option Nat)
    (cs : List Char) : repetition least most (cs ++ more) =
      ((repetition least most cs).1, (repetition least most cs).2 ++ more) := by
  rw [repetition, lazyMark_append hmore]
  rfl

/-- Without changes there is only one way to write an inline group. -/
theorem eq_cons_of_switches_nil {negated afterMinus : Bool} {seen : List Switch} {stop : Char}
    (h : switches negated afterMinus seen cs = some ([], stop, rest)) :
    afterMinus = false ∧ cs = stop :: rest := by
  induction cs generalizing negated afterMinus seen with
  | nil => cases h
  | cons c cs ih =>
    rw [switches] at h
    split at h
    · split at h
      · cases h
      · next hminus =>
        cases h
        exact ⟨by simpa using hminus, rfl⟩
    · split at h
      · split at h
        · cases h
        · exact absurd (ih h).1 nofun
      · split at h
        · cases h
        · split at h
          · cases h
          · obtain ⟨_, -, heq⟩ := Option.map_eq_some_iff.mp h
            cases heq

theorem namedGroup_append (h : namedGroup cs = some (l, rest)) (more : List Char) :
    namedGroup (cs ++ more) = some (l, rest ++ more) := by
  unfold namedGroup at h
  split at h
  · next tail hdrop =>
    obtain ⟨htake', hdrop'⟩ := scan_append hdrop more
    dsimp only at h
    split at h
    · next hname =>
      cases h
      simp [namedGroup, htake', hdrop', hname]
    · cases h
  · cases h

/-- What can follow an opening parenthesis. -/
inductive GroupReads : List Char → Lexeme → List Char → Prop
  | pythonName {body rest : List Char} {l : Lexeme} (h : namedGroup body = some (l, rest)) :
      GroupReads ('?' :: 'P' :: '<' :: body) l rest
  | name {c : Char} {body rest : List Char} {l : Lexeme} (hc : c ≠ '=' ∧ c ≠ '!')
      (h : namedGroup (c :: body) = some (l, rest)) : GroupReads ('?' :: '<' :: c :: body) l rest
  | switched {body rest : List Char} {changes : List Change}
      (h : switches false false [] body = some (changes, ':', rest)) :
      GroupReads ('?' :: body) (.opening false changes none) rest
  | changed (body : List Char) (changes : List Change) (rest : List Char) :
      GroupReads ('?' :: body) (.atom (.changes changes)) rest
  | plain {cs : List Char} (h : Unasked cs) : GroupReads cs (.opening true [] none) cs

theorem groupReads_of_group (h : group cs = some (l, rest)) : GroupReads cs l rest := by
  unfold group at h
  split at h
  next => cases h
  next => cases h
  next => cases h
  next => cases h
  next => exact .pythonName h
  next body hequals hnot =>
    cases body with
    | nil => cases h
    | cons c body =>
      refine .name ⟨?_, ?_⟩ h
      · rintro rfl
        exact hequals body rfl
      · rintro rfl
        exact hnot body rfl
  next =>
    split at h
    · cases h
    · next changes stop tail hswitches =>
      split at h
      · next hstop =>
        cases h
        subst hstop
        exact .switched hswitches
      · split at h
        · cases h
        · cases h
          exact .changed _ _ _
  next hmark =>
    cases h
    exact .plain hmark

theorem group_append (h : group cs = some (l, rest)) (hl : l.IsPlain) (hmore : Unasked more) :
    group (cs ++ more) = some (l, rest ++ more) := by
  cases groupReads_of_group h with
  | pythonName h => exact namedGroup_append h more
  | name hc h =>
    rw [List.cons_append, List.cons_append, List.cons_append, group]
    · exact namedGroup_append h more
    all_goals simp [hc]
  | switched h =>
    obtain rfl : _ = [] := hl
    obtain ⟨-, rfl⟩ := eq_cons_of_switches_nil h
    rfl
  | changed => exact hl.elim
  | plain hmark =>
    have hjoined := hmark.append hmore
    rw [group]
    all_goals exact fun _ => hjoined _

theorem not_isPlain_of_bracket (h : bracket false cs = some (t, rest)) : ¬ t.IsPlain := by
  obtain ⟨_, -, heq⟩ := Option.map_eq_some_iff.mp h
  cases heq
  exact id

/-- What can stand at the front of a pattern, by how the text behind it is read. -/
inductive WordReader : (List Char → Option (Lexeme × List Char)) → Prop
  | group : WordReader group
  | bracket : WordReader fun rest => (bracket false rest).map fun (t, rest) => (.atom t, rest)
  | repetition (least : Nat) (most : Option Nat) :
      WordReader fun rest => some (repetition least most rest)
  | bounds : WordReader fun rest =>
      (bounds false rest).map fun ((least, most), rest) => Regex.repetition least most rest
  | escape : WordReader fun rest => (escape false rest).map fun (t, rest) => (.atom t, rest)
  | fixed (l : Lexeme) : WordReader fun rest => some (l, rest)

theorem wordReader_lexeme (c : Char) : WordReader fun rest => lexeme false (c :: rest) := by
  simp only [lexeme, skipBlanks_plain]
  split
  all_goals first
    | exact .group
    | exact .bracket
    | exact .repetition _ _
    | exact .bounds
    | exact .escape
    | exact .fixed _

/-- A plain word is read the same in front of more text. -/
theorem WordReader.append {read : List Char → Option (Lexeme × List Char)}
    (hread : WordReader read) (h : read cs = some (l, rest)) (hl : l.IsPlain)
    (hmore : Unasked more) : read (cs ++ more) = some (l, rest ++ more) := by
  cases hread with
  | group => exact group_append h hl hmore
  | bracket =>
    obtain ⟨⟨t, tail⟩, hbracket, heq⟩ := Option.map_eq_some_iff.mp h
    cases heq
    exact absurd hl (not_isPlain_of_bracket hbracket)
  | repetition least most =>
    dsimp only
    rw [repetition_append hmore, Option.some.inj h]
  | bounds =>
    obtain ⟨⟨⟨least, most⟩, tail⟩, hbounds, heq⟩ := Option.map_eq_some_iff.mp h
    dsimp only at heq ⊢
    rw [bounds_append hbounds, Option.map_some, repetition_append hmore, heq]
  | escape =>
    obtain ⟨⟨t, tail⟩, hescape, heq⟩ := Option.map_eq_some_iff.mp h
    cases heq
    dsimp only
    rw [escape_append hescape hl, Option.map_some]
  | fixed u =>
    cases h
    rfl

theorem lexeme_append (h : lexeme false cs = some (l, rest)) (hl : l.IsPlain)
    (hmore : Unasked more) : lexeme false (cs ++ more) = some (l, rest ++ more) := by
  cases cs with
  | nil => cases h
  | cons c cs => exact (wordReader_lexeme c).append h hl hmore

end TagSieve.Regex
