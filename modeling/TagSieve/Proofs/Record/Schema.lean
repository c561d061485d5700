import Mathlib.Data.List.Forall2
import TagSieve.Record.Json

/-! The schema of records in JSON. A document is read if it keeps the schema, with one record for
each item, and is refused for its first item that does not. -/
namespace TagSieve.Json

variable {ε α β : Type} {x : Except ε α} {p q : Prop} {a : α} {v : Json}
  {members : List (String × Json)} {items : List Json} {rs : List Record} {index : Nat}

/-- A tag has strings and numbers as its values. -/
def IsTagValue : Json → Prop
  | string _ | number _ => True
  | _ => False

/-- The value of a tag, or several of them. -/
def IsTagValues : Json → Prop
  | array values => ∀ v ∈ values, v.IsTagValue
  | v => v.IsTagValue

/-- An entry of a tag list, in which every value stands by itself. -/
def IsTagEntry : Json → Prop
  | object members => ∀ m ∈ members, m.2.IsTagValue
  | _ => False

/-- Tags as a list of entries or as one object, or none. -/
def IsTags : Json → Prop
  | null => True
  | array entries => ∀ v ∈ entries, v.IsTagEntry
  | object members => ∀ m ∈ members, m.2.IsTagValues
  | _ => False

def IsText : Json → Prop
  | null | string _ => True
  | _ => False

instance : DecidablePred IsTagValue
  | string _ | number _ => isTrue trivial
  | null | bool _ | array _ | object _ => isFalse id

instance : DecidablePred IsTagValues
  | array values => List.decidableBAll IsTagValue values
  | null => inferInstanceAs (Decidable (IsTagValue null))
  | bool b => inferInstanceAs (Decidable (IsTagValue (bool b)))
  | number n => inferInstanceAs (Decidable (IsTagValue (number n)))
  | string s => inferInstanceAs (Decidable (IsTagValue (string s)))
  | object members => inferInstanceAs (Decidable (IsTagValue (object members)))

instance : DecidablePred IsTagEntry
  | object members => List.decidableBAll (fun m : String × Json => m.2.IsTagValue) members
  | null | bool _ | number _ | string _ | array _ => isFalse id

instance : DecidablePred IsTags
  | null => isTrue trivial
  | array entries => List.decidableBAll IsTagEntry entries
  | object members => List.decidableBAll (fun m : String × Json => m.2.IsTagValues) members
  | bool _ | number _ | string _ => isFalse id

/-- The members of a record. Each of the three may be missing. -/
structure AreRecord (members : List (String × Json)) : Prop where
  path : ∀ v, member? "path" members = some v → v.IsText
  backend : ∀ v, member? "backend" members = some v → v.IsText
  tags : ∀ v, member? "tags" members = some v → v.IsTags

def IsRecord : Json → Prop
  | object members => AreRecord members
  | _ => False

/-- The items of a document: those of an array, or an object as the only one. -/
def items? : Json → Option (List Json)
  | array items => some items
  | object members => some [object members]
  | _ => none

def IsRecords (v : Json) : Prop := ∃ items, v.items? = some items ∧ ∀ w ∈ items, w.IsRecord

/-- The position is that of the first item that is no record. -/
def IsFirstFault (items : List Json) (i : Nat) : Prop :=
  (∃ w, items[i]? = some w ∧ ¬ w.IsRecord) ∧ ∀ j < i, ∀ w, items[j]? = some w → w.IsRecord

/-- Where a document breaks the schema first; one without items does so at zero. -/
def FailsAt (v : Json) (index : Nat) : Prop :=
  match v.items? with
  | none => index = 0
  | some items => IsFirstFault items index

/-- The text of a string, or of a number as it is written. -/
def scalar : Json → String
  | string s => s
  | number n => String.ofList n.chars
  | _ => ""

/-- The tags of a member one by one: an array has one for each of its elements. -/
def memberTags (m : String × Json) : List (String × Json) :=
  match m.2 with
  | array values => values.map fun v => (m.1, v)
  | _ => [m]

/-- The tags of an entry of a tag list, one by one. -/
def entryTags : Json → List (String × Json)
  | object members => members
  | _ => []

/-- The tags one by one, in the order of the document. -/
def tagMembers : Json → List (String × Json)
  | array entries => entries.flatMap entryTags
  | object members => members.flatMap memberTags
  | _ => []

/-- The record that the members of an object describe. -/
def described (members : List (String × Json)) : Record where
  path := ((member? "path" members).map scalar).getD ""
  backend := ((member? "backend" members).map scalar).getD ""
  tags := .ofPairs ((((member? "tags" members).map tagMembers).getD []).map
    fun m => (m.1, scalar m.2))

/-- The value is an object, and the record is the one that its members describe. -/
def Describes (v : Json) (r : Record) : Prop :=
  ∃ members, v = object members ∧ r = described members

/-- A reader gives a value if a condition holds, and fails otherwise. -/
def Gives (x : Except ε α) (p : Prop) (a : α) : Prop := (p → x = .ok a) ∧ (¬ p → ∃ e, x = .error e)

namespace Gives

theorem ok (a : α) : Gives (.ok a : Except ε α) True a := ⟨fun _ => rfl, fun h => absurd trivial h⟩

theorem error (e : ε) (a : α) : Gives (.error e) False a := ⟨nofun, fun _ => ⟨e, rfl⟩⟩

theorem map (h : Gives x p a) (f : α → β) : Gives (x.map f) p (f a) := by
  constructor
  · intro hp
    rw [h.1 hp, Except.map]
  · intro hp
    obtain ⟨e, rfl⟩ := h.2 hp
    exact ⟨e, rfl⟩

theorem bind {f : α → Except ε β} {b : β} (h : Gives x p a) (hf : Gives (f a) q b) :
    Gives (x.bind f) (p ∧ q) b := by
  constructor
  · rintro ⟨hp, hq⟩
    rw [h.1 hp, Except.bind, hf.1 hq]
  · intro hpq
    by_cases hp : p
    · rw [h.1 hp, Except.bind]
      exact hf.2 fun hq => hpq ⟨hp, hq⟩
    · obtain ⟨e, rfl⟩ := h.2 hp
      exact ⟨e, rfl⟩

theorem congr (h : Gives x p a) (hpq : p ↔ q) : Gives x q a := propext hpq ▸ h

/-- A list is read if each of its elements is. -/
theorem mapM {γ : Type} {f : γ → Except ε α} {p : γ → Prop} {g : γ → α}
    (h : ∀ c, Gives (f c) (p c) (g c)) (cs : List γ) :
    Gives (cs.mapM f) (∀ c ∈ cs, p c) (cs.map g) := by
  induction cs with
  | nil => exact (ok []).congr (by simp)
  | cons c cs ih =>
    rw [List.mapM_cons]
    exact ((h c).bind (ih.map (g c :: ·))).congr List.forall_mem_cons.symm

theorem ok_iff (h : Gives x p a) : (∃ b, x = .ok b) ↔ p := by
  constructor
  · rintro ⟨b, rfl⟩
    by_contra hp
    obtain ⟨e, he⟩ := h.2 hp
    cases he
  · intro hp
    exact ⟨a, h.1 hp⟩

theorem eq_ok_iff {b : α} (h : Gives x p a) : x = .ok b ↔ p ∧ b = a := by
  constructor
  · rintro rfl
    have hp := h.ok_iff.mp ⟨b, rfl⟩
    exact ⟨hp, Except.ok.inj (h.1 hp)⟩
  · rintro ⟨hp, rfl⟩
    exact h.1 hp

end Gives

theorem gives_tagText (key : String) (v : Json) : Gives (tagText key v) v.IsTagValue v.scalar := by
  cases v with
  | string s => exact .ok _
  | number n => exact .ok _
  | _ => exact .error _ _

theorem gives_tagPair (m : String × Json) :
    Gives (tagPair m) m.2.IsTagValue (m.1, scalar m.2) :=
  (gives_tagText m.1 m.2).map _

theorem gives_tagPairs (m : String × Json) :
    Gives (tagPairs m) m.2.IsTagValues ((memberTags m).map fun t => (t.1, scalar t.2)) := by
  obtain ⟨key, v⟩ := m
  have hone := (gives_tagPair (key, v)).map fun t => [t]
  cases v with
  | array values =>
    rw [memberTags, List.map_map]
    exact .mapM (fun v => gives_tagPair (key, v)) values
  | _ => exact hone

theorem gives_entryPairs (v : Json) :
    Gives (entryPairs v) v.IsTagEntry ((entryTags v).map fun t => (t.1, scalar t.2)) := by
  cases v with
  | object members => exact .mapM gives_tagPair members
  | _ => exact .error _ _

theorem gives_recordPairs (v : Json) :
    Gives (recordPairs v) v.IsTags ((tagMembers v).map fun t => (t.1, scalar t.2)) := by
  cases v with
  | null => exact .ok _
  | array entries =>
    rw [tagMembers, List.map_flatMap, List.flatMap_def]
    exact (Gives.mapM gives_entryPairs entries).map _
  | object members =>
    rw [tagMembers, List.map_flatMap, List.flatMap_def]
    exact (Gives.mapM gives_tagPairs members).map _
  | _ => exact .error _ _

theorem gives_textField (members : List (String × Json)) (name : String) :
    Gives (textField members name) (∀ v, member? name members = some v → v.IsText)
      (((member? name members).map scalar).getD "") := by
  unfold textField
  cases member? name members with
  | none => exact (Gives.ok "").congr (by simp)
  | some v =>
    refine Gives.congr (p := v.IsText) ?_ (by simp)
    cases v with
    | null => exact .ok _
    | string s => exact .ok _
    | _ => exact .error _ _

theorem gives_tags (members : List (String × Json)) :
    Gives (recordPairs ((member? "tags" members).getD null))
      (∀ v, member? "tags" members = some v → v.IsTags)
      ((((member? "tags" members).map tagMembers).getD []).map fun t => (t.1, scalar t.2)) := by
  cases member? "tags" members with
  | none => exact (gives_recordPairs null).congr (by simp [IsTags])
  | some v => exact (gives_recordPairs v).congr (by simp)

/-- An object is read as the record that it describes if it keeps the schema. -/
theorem gives_toRecord (members : List (String × Json)) :
    Gives (toRecord (object members)) (AreRecord members) (described members) := by
  have hfields := (gives_textField members "path").bind
    (f := fun path => (textField members "backend").bind fun backend =>
      (recordPairs ((member? "tags" members).getD null)).map fun pairs =>
        (⟨path, backend, TagList.ofPairs pairs⟩ : Record))
    ((gives_textField members "backend").bind ((gives_tags members).map _))
  refine hfields.congr ⟨fun h => ⟨h.1, h.2.1, h.2.2⟩, fun h => ⟨h.path, h.backend, h.tags⟩⟩

theorem toRecord_eq_ok {r : Record} : v.toRecord = .ok r ↔ v.IsRecord ∧ v.Describes r := by
  cases v with
  | object members =>
    rw [(gives_toRecord members).eq_ok_iff]
    refine and_congr_right fun _ => ⟨fun h => ⟨members, rfl, h⟩, ?_⟩
    rintro ⟨_, ⟨⟩, h⟩
    exact h
  | _ =>
    constructor
    · rintro ⟨⟩
    · rintro ⟨⟨⟩, -⟩

theorem exists_toRecord_iff : (∃ r, v.toRecord = .ok r) ↔ v.IsRecord := by
  cases v with
  | object members => exact (gives_toRecord members).ok_iff
  | _ =>
    constructor
    · rintro ⟨r, ⟨⟩⟩
    · rintro ⟨⟩

theorem itemRecords_eq_ok (start : Nat) :
    itemRecords start items = .ok rs ↔ List.Forall₂ (fun v r => v.toRecord = .ok r) items rs := by
  induction items generalizing start rs with
  | nil => cases rs <;> simp [itemRecords]
  | cons v rest ih =>
    unfold itemRecords
    cases hv : v.toRecord with
    | error f => cases rs <;> simp [hv]
    | ok r =>
      cases hrest : itemRecords (start + 1) rest with
      | error f =>
        have hnot : ∀ rs, ¬ List.Forall₂ (fun v r => v.toRecord = .ok r) rest rs := by
          intro rs h
          rw [← ih (start + 1), hrest] at h
          cases h
        cases rs <;> simp [Except.map, hnot]
      | ok rs' =>
        cases rs with
        | nil => simp [Except.map]
        | cons r' rs => simp [Except.map, hv, ← ih (start + 1), hrest]

theorem exists_itemRecords_iff (start : Nat) :
    (∃ rs, itemRecords start items = .ok rs) ↔ ∀ w ∈ items, w.IsRecord := by
  simp only [itemRecords_eq_ok]
  induction items with
  | nil => simp
  | cons v rest ih =>
    rw [List.forall_mem_cons, ← exists_toRecord_iff, ← ih]
    constructor
    · rintro ⟨_, h⟩
      cases h with
      | cons hv hrest => exact ⟨⟨_, hv⟩, ⟨_, hrest⟩⟩
    · rintro ⟨⟨r, hv⟩, ⟨rs, hrest⟩⟩
      exact ⟨r :: rs, .cons hv hrest⟩

theorem isFirstFault_of_not (hv : ¬ v.IsRecord) : IsFirstFault (v :: items) index ↔ index = 0 := by
  constructor
  · rintro ⟨-, hbefore⟩
    by_contra hpos
    exact hv (hbefore 0 (Nat.pos_of_ne_zero hpos) v rfl)
  · rintro rfl
    exact ⟨⟨v, rfl, hv⟩, nofun⟩

theorem isFirstFault_zero (hv : v.IsRecord) : ¬ IsFirstFault (v :: items) 0 := by
  rintro ⟨⟨w, ⟨⟩, hw⟩, -⟩
  exact hw hv

theorem isFirstFault_succ (hv : v.IsRecord) :
    IsFirstFault (v :: items) (index + 1) ↔ IsFirstFault items index := by
  refine and_congr_right fun _ => ⟨fun h j hj => h (j + 1) (Nat.succ_lt_succ hj), fun h j hj => ?_⟩
  cases j with
  | zero =>
    rintro _ ⟨⟩
    exact hv
  | succ j => exact h j (Nat.lt_of_succ_lt_succ hj)

/-- Items are refused at the first one that is no record, counted from where they start. -/
theorem itemRecords_eq_error (start : Nat) :
    (∃ f, itemRecords start items = .error (index, f)) ↔
      ∃ i, index = start + i ∧ IsFirstFault items i := by
  induction items generalizing start with
  | nil =>
    constructor
    · rintro ⟨f, ⟨⟩⟩
    · rintro ⟨i, -, ⟨w, ⟨⟩, -⟩, -⟩
  | cons v rest ih =>
    unfold itemRecords
    cases hv : v.toRecord with
    | error f =>
      have hnot : ¬ v.IsRecord := by
        rw [← exists_toRecord_iff, hv]
        rintro ⟨r, ⟨⟩⟩
      simp [isFirstFault_of_not hnot, eq_comm]
    | ok r =>
      have hrecord : v.IsRecord := exists_toRecord_iff.mp ⟨r, hv⟩
      have hmap : (∃ f, (itemRecords (start + 1) rest).map (r :: ·) = .error (index, f)) ↔
          ∃ f, itemRecords (start + 1) rest = .error (index, f) := by
        cases itemRecords (start + 1) rest <;> simp [Except.map]
      refine (hmap.trans (ih (start + 1))).trans ⟨?_, ?_⟩
      · rintro ⟨i, rfl, hi⟩
        exact ⟨i + 1, by omega, (isFirstFault_succ hrecord).mpr hi⟩
      · rintro ⟨i, rfl, hi⟩
        cases i with
        | zero => exact absurd hi (isFirstFault_zero hrecord)
        | succ i => exact ⟨i, by omega, (isFirstFault_succ hrecord).mp hi⟩

theorem toRecords_of_items (h : v.items? = some items) : v.toRecords = itemRecords 0 items := by
  cases v with
  | array _ | object _ =>
    cases h
    rfl
  | _ => cases h

theorem toRecords_of_no_items (h : v.items? = none) : v.toRecords = .error (0, .notRecords) := by
  cases v with
  | array _ | object _ => cases h
  | _ => rfl

/-- A document is read if and only if it keeps the schema. Then each item gives the record that it
describes, in the order of the items. Otherwise no record is given, and the fault has the position
of the first item that breaks the schema. -/
theorem toRecords_accepts_schema (v : Json) :
    ((∃ rs, v.toRecords = .ok rs) ↔ v.IsRecords) ∧
    (∀ rs, v.toRecords = .ok rs →
      ∃ items, v.items? = some items ∧ List.Forall₂ Describes items rs) ∧
    ∀ index, (∃ f, v.toRecords = .error (index, f)) ↔ v.FailsAt index := by
  unfold IsRecords FailsAt
  cases hitems : v.items? with
  | none =>
    rw [toRecords_of_no_items hitems]
    simp [eq_comm]
  | some items =>
    rw [toRecords_of_items hitems]
    refine ⟨?_, ?_, ?_⟩
    · rw [exists_itemRecords_iff]
      simp
    · intro rs hrs
      refine ⟨items, rfl, ((itemRecords_eq_ok 0).mp hrs).imp ?_⟩
      intro w r h
      exact (toRecord_eq_ok.mp h).2
    · intro index
      rw [itemRecords_eq_error]
      simp

end TagSieve.Json
