import Mathlib.Data.List.Basic
import TagSieve.Proofs.Unicode.Lowercase
import TagSieve.Record.Json

/-! Records through JSON. Reading lowercases the keys once more, which changes none that has been
stored, so records that are written and read are the same records. -/
namespace TagSieve

variable {l : TagList} {r : Record} {rs : List Record} {v : Json} {items : List Json} {index : Nat}

namespace TagList

/-- Tags that were stored one by one or together, under any keys. -/
inductive Stored : TagList → Prop
  | ofPairs (pairs : List (String × String)) : Stored (ofPairs pairs)
  | insert {l : TagList} (h : Stored l) (key value : String) : Stored (l.insert key value)

/-- The keys and values of the tags, in their order. -/
def toPairs (l : TagList) : List (String × String) := l.tags.map fun t => (t.key, t.value)

theorem lowercase_key_of (key value : String) :
    Unicode.lowercase (Tag.of key value).key = (Tag.of key value).key :=
  Unicode.lowercase_lowercase key

theorem Stored.lowercase_key (h : l.Stored) : ∀ t ∈ l.tags, Unicode.lowercase t.key = t.key := by
  induction h with
  | ofPairs pairs =>
    intro t ht
    obtain ⟨p, -, rfl⟩ := List.mem_map.mp ht
    exact lowercase_key_of p.1 p.2
  | insert _ key value ih =>
    intro t ht
    rcases List.mem_append.mp ht with ht | ht
    · exact ih t ht
    · obtain rfl := List.mem_singleton.mp ht
      exact lowercase_key_of key value

/-- Storing tags once more changes nothing. -/
theorem Stored.ofPairs_toPairs (h : l.Stored) : TagList.ofPairs l.toPairs = l := by
  have htags : l.tags.map (fun t => Tag.of t.key t.value) = l.tags := by
    calc l.tags.map (fun t => Tag.of t.key t.value)
        = l.tags.map id :=
          List.map_congr_left fun t ht => congrArg (Tag.mk · t.value) (h.lowercase_key t ht)
      _ = l.tags := List.map_id l.tags
  rw [toPairs, TagList.ofPairs, List.map_map]
  exact congrArg TagList.mk htags

end TagList

theorem Record.stored_withTag (h : r.tags.Stored) (key value : String) :
    (r.withTag key value).tags.Stored := h.insert key value

namespace Json

/-- Every tag is an entry of its own. -/
theorem entryPairs_toJson (tags : List Tag) :
    (tags.map fun t => object [(t.key, string t.value)]).mapM entryPairs =
      .ok (tags.map fun t => [(t.key, t.value)]) := by
  induction tags with
  | nil => rfl
  | cons t tags ih =>
    rw [List.map_cons, List.mapM_cons, ih]
    rfl

theorem recordPairs_toJson (l : TagList) :
    recordPairs (array (l.tags.map fun t => object [(t.key, string t.value)])) = .ok l.toPairs := by
  rw [recordPairs, entryPairs_toJson]
  have hflat : (l.tags.map fun t => [(t.key, t.value)]).flatten = l.toPairs :=
    List.flatMap_def.symm.trans List.map_eq_flatMap.symm
  exact congrArg Except.ok hflat

theorem toRecord_toJson (h : r.tags.Stored) : r.toJson.toRecord = .ok r := by
  have hread : r.toJson.toRecord = (recordPairs
      (array (r.tags.tags.map fun t => object [(t.key, string t.value)]))).map
        fun pairs => ⟨r.path, r.backend, TagList.ofPairs pairs⟩ := rfl
  rw [hread, recordPairs_toJson, Except.map, h.ofPairs_toPairs]

theorem itemRecords_toJson (h : ∀ r ∈ rs, r.tags.Stored) (index : Nat) :
    itemRecords index (rs.map Record.toJson) = .ok rs := by
  induction rs generalizing index with
  | nil => rfl
  | cons r rs ih =>
    obtain ⟨hr, hrs⟩ := List.forall_mem_cons.mp h
    rw [List.map_cons, itemRecords, toRecord_toJson hr]
    dsimp only
    rw [ih hrs]
    rfl

/-- Reading stores the tags of a document together. -/
theorem stored_of_toRecord (h : v.toRecord = .ok r) : r.tags.Stored := by
  cases v with
  | object members =>
    simp only [toRecord] at h
    cases hpath : textField members "path" with
    | error f =>
      rw [hpath] at h
      cases h
    | ok path =>
      cases hbackend : textField members "backend" with
      | error f =>
        rw [hpath, hbackend] at h
        cases h
      | ok backend =>
        cases hpairs : recordPairs ((member? "tags" members).getD null) with
        | error f =>
          rw [hpath, hbackend, hpairs] at h
          cases h
        | ok pairs =>
          rw [hpath, hbackend, hpairs] at h
          cases h
          exact .ofPairs pairs
  | _ => cases h

theorem stored_of_itemRecords (h : itemRecords index items = .ok rs) : ∀ r ∈ rs, r.tags.Stored := by
  induction items generalizing index rs with
  | nil =>
    cases h
    nofun
  | cons v rest ih =>
    unfold itemRecords at h
    cases hv : v.toRecord with
    | error f =>
      rw [hv] at h
      cases h
    | ok r =>
      rw [hv] at h
      cases hrest : itemRecords (index + 1) rest with
      | error f =>
        rw [hrest] at h
        cases h
      | ok rs' =>
        rw [hrest] at h
        cases h
        exact List.forall_mem_cons.mpr ⟨stored_of_toRecord hv, ih hrest⟩

theorem stored_of_toRecords (h : v.toRecords = .ok rs) : ∀ r ∈ rs, r.tags.Stored := by
  cases v with
  | array items => exact stored_of_itemRecords h
  | object members =>
    have hone : itemRecords 0 [object members] = .ok rs := h
    exact stored_of_itemRecords hone
  | _ => cases h

end Json

namespace Record

/-- Records that are written and read are the same records: all of them, in their order, with all
their tags in their order. So a document that was written for the records of another one is written
again as it is. -/
theorem survives_json :
    (∀ rs : List Record, (∀ r ∈ rs, r.tags.Stored) → (listToJson rs).toRecords = .ok rs) ∧
      ∀ v u : Json, v.toRecords.map listToJson = .ok u → u.toRecords.map listToJson = .ok u := by
  have hread (rs : List Record) (h : ∀ r ∈ rs, r.tags.Stored) :
      (listToJson rs).toRecords = .ok rs := Json.itemRecords_toJson h 0
  refine ⟨hread, fun v u h => ?_⟩
  cases hv : v.toRecords with
  | error f =>
    rw [hv] at h
    cases h
  | ok rs =>
    rw [hv] at h
    cases h
    rw [hread rs (Json.stored_of_toRecords hv)]
    rfl

/-- Two records, one with keys that change their length or end in a sigma, and one without tags. -/
def sigmaRecords : List Record :=
  [(Record.mk "a.flac" "libFLAC" (.ofPairs [("ΟΔΟΣ", "1"), ("İ", ""), ("οδος", "2")])).withTag
    "ΣΑΣ" "3", ⟨"", "", .ofPairs []⟩]

/-- A document whose record has no path, and its tags as an object with lists of values. -/
def sigmaDocument : Json :=
  .object [("tags", .object [("İ", .string "x"),
    ("ΟΔΟΣ", .array [.string "1", .number (.integer 2)])])]

theorem toRecords_sigmaDocument : sigmaDocument.toRecords =
    .ok [⟨"", "", ⟨[⟨"i̇", "x"⟩, ⟨"οδος", "1"⟩, ⟨"οδος", "2"⟩]⟩⟩] := by
  decide +kernel

theorem survives_json_sigma :
    (listToJson sigmaRecords).toRecords = .ok sigmaRecords ∧
      (∀ u, sigmaDocument.toRecords.map listToJson = .ok u →
        u.toRecords.map listToJson = .ok u) ∧
      ∃ u, sigmaDocument.toRecords.map listToJson = .ok u := by
  obtain ⟨hread, hagain⟩ := survives_json
  refine ⟨hread sigmaRecords ?_, hagain sigmaDocument, ?_⟩
  · rintro r hr
    rcases List.mem_cons.mp hr with rfl | hr
    · exact stored_withTag (.ofPairs _) "ΣΑΣ" "3"
    · obtain rfl := List.mem_singleton.mp hr
      exact .ofPairs []
  · rw [toRecords_sigmaDocument]
    exact ⟨_, rfl⟩

end Record

end TagSieve
