import TagSieve.Proofs.Record.Schema

/-! The two forms of tags. An object, and a list of entries with several members, mean the same as
the list in which every tag is an entry of its own. -/
namespace TagSieve.Json

variable {v w t : Json} {key : String} {members : List (String × Json)} {m : String × Json}

/-- The tags as a list of entries with one member each. -/
def listed (t : Json) : Json := array ((tagMembers t).map fun m => object [m])

theorem member?_cons_self (key : String) (v : Json) (members : List (String × Json)) :
    member? key ((key, v) :: members) = some v := List.lookup_cons_self

theorem member?_cons_of_ne {other : String} (h : other ≠ key) (v : Json)
    (members : List (String × Json)) :
    member? other ((key, v) :: members) = member? other members := by
  rw [member?, List.lookup_cons, beq_eq_false_iff_ne.mpr h, member?]

theorem member?_insertMember (key : String) (v : Json) (members : List (String × Json)) :
    member? key (insertMember key v members) = some v := by
  induction members with
  | nil => exact member?_cons_self key v []
  | cons m rest ih =>
    obtain ⟨k, w⟩ := m
    unfold insertMember
    split
    case isTrue => exact member?_cons_self key v rest
    case isFalse hk =>
      split
      · exact member?_cons_self key v _
      · rw [member?_cons_of_ne (Ne.symm hk), ih]

theorem member?_insertMember_of_ne {other : String} (h : other ≠ key) (v : Json)
    (members : List (String × Json)) :
    member? other (insertMember key v members) = member? other members := by
  induction members with
  | nil => exact member?_cons_of_ne h v []
  | cons m rest ih =>
    obtain ⟨k, w⟩ := m
    unfold insertMember
    split
    case isTrue hk =>
      subst hk
      rw [member?_cons_of_ne h, member?_cons_of_ne h]
    case isFalse =>
      split
      · exact member?_cons_of_ne h v _
      · simp only [member?, List.lookup_cons] at ih ⊢
        rw [ih]

theorem tagMembers_listed (t : Json) : tagMembers (listed t) = tagMembers t := by
  rw [listed, tagMembers, List.flatMap_map]
  exact List.flatMap_singleton' _

theorem isTagValue_of_mem_memberTags (h : m.2.IsTagValues) :
    ∀ t ∈ memberTags m, t.2.IsTagValue := by
  obtain ⟨key, v⟩ := m
  cases v with
  | array values =>
    intro t ht
    obtain ⟨v, hv, rfl⟩ := List.mem_map.mp ht
    exact h v hv
  | _ =>
    intro t ht
    obtain rfl := List.mem_singleton.mp ht
    exact h

theorem isTagValue_of_mem_tagMembers (h : v.IsTags) : ∀ t ∈ tagMembers v, t.2.IsTagValue := by
  intro t ht
  cases v with
  | array entries =>
    obtain ⟨entry, hentry, ht⟩ := List.mem_flatMap.mp ht
    have hfits := h entry hentry
    cases entry with
    | object members => exact hfits t ht
    | _ => cases ht
  | object members =>
    obtain ⟨m, hm, ht⟩ := List.mem_flatMap.mp ht
    exact isTagValue_of_mem_memberTags (h m hm) t ht
  | _ => cases ht

theorem isTags_listed (h : t.IsTags) : (listed t).IsTags := by
  intro entry hentry
  obtain ⟨m, hm, rfl⟩ := List.mem_map.mp hentry
  have hvalue := isTagValue_of_mem_tagMembers h m hm
  simpa [IsTagEntry] using hvalue

theorem recordPairs_listed (h : t.IsTags) : recordPairs (listed t) = recordPairs t := by
  rw [(gives_recordPairs t).1 h, (gives_recordPairs (listed t)).1 (isTags_listed h),
    tagMembers_listed]

theorem itemRecords_congr (h : v.toRecord = w.toRecord) (before after : List Json) (start : Nat) :
    itemRecords start (before ++ v :: after) = itemRecords start (before ++ w :: after) := by
  induction before generalizing start with
  | nil => simp only [List.nil_append, itemRecords, h]
  | cons u before ih => simp only [List.cons_append, itemRecords, ih]

/-- Tags in either form can be written as a list with an entry for each tag, which changes neither
their record nor what becomes of the document around it. Unless another member breaks the schema,
there is a record. It has every tag once, in the order of the document, also where keys are the same
but for their case. -/
theorem tag_forms_agree (htags : member? "tags" members = some t) (ht : t.IsTags) :
    (object (insertMember "tags" (listed t) members)).toRecord = (object members).toRecord ∧
    (∀ before after, (array (before ++ object (insertMember "tags" (listed t) members) ::
      after)).toRecords = (array (before ++ object members :: after)).toRecords) ∧
    ((∃ r, (object members).toRecord = .ok r) ↔ AreRecord members) ∧
    ∀ r, (object members).toRecord = .ok r →
      r.tags.tags = (tagMembers t).map fun m => Tag.of m.1 m.2.scalar := by
  have hsame : (object (insertMember "tags" (listed t) members)).toRecord =
      (object members).toRecord := by
    simp only [toRecord, textField, member?_insertMember, htags, Option.getD_some,
      recordPairs_listed ht,
      member?_insertMember_of_ne (show "path" ≠ "tags" by decide),
      member?_insertMember_of_ne (show "backend" ≠ "tags" by decide)]
  refine ⟨hsame, fun before after => itemRecords_congr hsame before after 0,
    exists_toRecord_iff, ?_⟩
  intro r hr
  obtain ⟨-, _, ⟨⟩, rfl⟩ := toRecord_eq_ok.mp hr
  simp [described, htags, TagList.ofPairs]

/-- Tags as an object, with keys that are the same but for their case and a list without values. -/
def objectTags : Json :=
  .object [("ARTIST", .array [.string "A", .number (.integer 7)]), ("Artist", .string "B"),
    ("genre", .array [])]

/-- Tags as a list of entries with several members and with none. -/
def listTags : Json :=
  .array [.object [("ARTIST", .string "A"), ("artist", .string "B")], .object [],
    .object [("Σ", .string "C")]]

theorem tag_forms_agree_artists :
    (objectTags.IsTags ∧
      (object [("path", .string "a.mp3"), ("tags", listed objectTags)]).toRecord =
        (object [("path", .string "a.mp3"), ("tags", objectTags)]).toRecord ∧
      (object [("path", .string "a.mp3"), ("tags", objectTags)]).toRecord =
        .ok ⟨"a.mp3", "", ⟨[⟨"artist", "A"⟩, ⟨"artist", "7"⟩, ⟨"artist", "B"⟩]⟩⟩) ∧
    listTags.IsTags ∧
      (object [("tags", listed listTags)]).toRecord = (object [("tags", listTags)]).toRecord ∧
      (object [("tags", listTags)]).toRecord =
        .ok ⟨"", "", ⟨[⟨"artist", "A"⟩, ⟨"artist", "B"⟩, ⟨"σ", "C"⟩]⟩⟩ := by
  have hobject : member? "tags" [("path", .string "a.mp3"), ("tags", objectTags)] =
      some objectTags := rfl
  have hlist : member? "tags" [("tags", listTags)] = some listTags := rfl
  have htags : objectTags.IsTags ∧ listTags.IsTags := by decide
  exact ⟨⟨htags.1, (tag_forms_agree hobject htags.1).1, by decide +kernel⟩,
    htags.2, (tag_forms_agree hlist htags.2).1, by decide +kernel⟩

end TagSieve.Json
