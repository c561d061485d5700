import Mathlib.Data.List.Forall2
import Mathlib.Data.List.Induction
import TagSieve.Proofs.Evaluation.Selectors

/-! Keys without regard to case. A record stores what is put on it under the lowercase forms of the
keys, and a filter asks for the lowercase form of each key that it names, so nothing else of a key
can be told from a verdict. -/
namespace TagSieve

variable {key key' value : String} {r : Record} {p q : String × String}
  {ps qs : List (String × String)} {x x' : Value} {v : View}

/-- One way of putting tags on a record. -/
inductive Tagging where
  /-- A tag goes into the list of the record, behind all others. -/
  | insert (key value : String)
  | withTag (key value : String)
  /-- The tags of some pairs take the place of the whole list. -/
  | withTags (pairs : List (String × String))

namespace Tagging

def apply (r : Record) : Tagging → Record
  | insert key value => { r with tags := r.tags.insert key value }
  | withTag key value => r.withTag key value
  | withTags pairs => { r with tags := .ofPairs pairs }

/-- The pairs that a record is left with, if it had these before. -/
def extend (ps : List (String × String)) : Tagging → List (String × String)
  | insert key value | withTag key value => ps ++ [(key, value)]
  | withTags pairs => pairs

/-- The pairs that a new record is left with. -/
def pairs (ts : List Tagging) : List (String × String) := ts.foldl extend []

end Tagging

/-- A new record with tags put on it. -/
def Record.tagged (path backend : String) (ts : List Tagging) : Record :=
  ts.foldl Tagging.apply ⟨path, backend, .empty⟩

theorem TagList.values_ofPairs (ps : List (String × String)) (key : String) :
    (ofPairs ps).values key =
      (ps.filter fun p => Unicode.lowercase p.1 = Unicode.lowercase key).map (·.2) := by
  induction ps using List.reverseRecOn with
  | nil => rfl
  | append_singleton ps p ih =>
    rw [ofPairs_append, values_insert, ih, List.filter_append, List.map_append]
    by_cases h : Unicode.lowercase p.1 = Unicode.lowercase key <;> simp [h]

/-- A record that holds the tags of some pairs still holds those of its pairs after a step. -/
theorem Tagging.tags_apply (h : r.tags = .ofPairs ps) (t : Tagging) :
    (t.apply r).tags = .ofPairs (t.extend ps) := by
  cases t with
  | insert key value | withTag key value =>
    rw [extend, TagList.ofPairs_append, ← h]
    rfl
  | withTags pairs => rfl

theorem Tagging.tags_foldl (h : r.tags = .ofPairs ps) (ts : List Tagging) :
    (ts.foldl apply r).tags = .ofPairs (ts.foldl extend ps) := by
  induction ts generalizing r ps with
  | nil => exact h
  | cons t ts ih => exact ih (tags_apply h t)

theorem Record.tags_tagged (path backend : String) (ts : List Tagging) :
    (tagged path backend ts).tags = .ofPairs (Tagging.pairs ts) :=
  Tagging.tags_foldl rfl ts

/-- What is put on a new record one by one stays there, and so does what is put on it at once. -/
theorem Tagging.pairs_of_one_way (ps : List (String × String)) :
    pairs (ps.map fun p => .insert p.1 p.2) = ps ∧
      pairs (ps.map fun p => .withTag p.1 p.2) = ps ∧ pairs [.withTags ps] = ps := by
  have hfold (qs ps : List (String × String)) :
      ps.foldl (fun qs p => qs ++ [p]) qs = qs ++ ps := by
    induction ps generalizing qs with
    | nil => simp
    | cons p ps ih => simp [ih]
  refine ⟨?_, ?_, rfl⟩
  · rw [pairs, List.foldl_map]
    exact hfold [] ps
  · rw [pairs, List.foldl_map]
    exact hfold [] ps

def SameKey (key key' : String) : Prop := Unicode.lowercase key = Unicode.lowercase key'

instance (key key' : String) : Decidable (SameKey key key') := inferInstanceAs (Decidable (_ = _))

/-- Pairs with one value, under keys that differ in case only. -/
def SamePair (p q : String × String) : Prop := SameKey p.1 q.1 ∧ p.2 = q.2

/-- The same step, with keys that differ in case only. -/
inductive Tagging.Recased : Tagging → Tagging → Prop
  | insert {key key' : String} (value : String) (h : SameKey key key') :
    Recased (.insert key value) (.insert key' value)
  | withTag {key key' : String} (value : String) (h : SameKey key key') :
    Recased (.withTag key value) (.withTag key' value)
  | withTags {ps qs : List (String × String)} (h : List.Forall₂ SamePair ps qs) :
    Recased (.withTags ps) (.withTags qs)

/-- The same value, or a tag with the same selector under a name that differs in case only. -/
inductive Value.Recased : Value → Value → Prop
  | refl (x : Value) : Recased x x
  | tag {name name' : String} (t : Selector) (h : SameKey name name') :
    Recased (.tag ⟨name, t⟩) (.tag ⟨name', t⟩)

theorem TagList.insert_recased (h : SameKey key key') (l : TagList) (value : String) :
    l.insert key value = l.insert key' value := by
  unfold SameKey at h
  simp [insert, Tag.of, h]

theorem TagList.ofPairs_recased (h : List.Forall₂ SamePair ps qs) : ofPairs ps = ofPairs qs := by
  unfold ofPairs
  congr 1
  induction h with
  | nil => rfl
  | cons hp _ ih =>
    obtain ⟨hkey, hvalue⟩ := hp
    unfold SameKey at hkey
    rw [List.map_cons, List.map_cons, ih, hvalue]
    simp [Tag.of, hkey]

theorem Tagging.Recased.apply_eq {t t' : Tagging} (h : t.Recased t') (r : Record) :
    t.apply r = t'.apply r := by
  cases h with
  | insert value h | withTag value h =>
    simp only [apply, Record.withTag, TagList.insert_recased h]
  | withTags h => simp only [apply, TagList.ofPairs_recased h]

theorem Record.tagged_recased {ts ts' : List Tagging} (h : List.Forall₂ Tagging.Recased ts ts')
    (path backend : String) : tagged path backend ts = tagged path backend ts' := by
  unfold tagged
  generalize (⟨path, backend, .empty⟩ : Record) = r
  induction h generalizing r with
  | nil => rfl
  | cons ht _ ih =>
    rw [List.foldl_cons, List.foldl_cons, ht.apply_eq r]
    exact ih _

theorem Record.lookup_recased (h : SameKey key key') (r : Record) : r.lookup key = r.lookup key' := by
  unfold SameKey at h
  simp [lookup, TagList.values, TagList.findAll, h]

theorem Value.Recased.alike (h : x.Recased x') (r : Record) : r.view.Alike x x' := by
  cases h with
  | refl => exact .refl _
  | @tag name name' t h =>
    refine .tag _ _ ?_
    have hlookup : r.view.lookup name = r.view.lookup name' := Record.lookup_recased h r
    simp only [View.resolveTag, hlookup]
    exact .refl _

/-- Keys count by their lowercase forms. What a record has for a key are the values of exactly those
pairs put on it whose keys have the lowercase form of that key, each once and in the order in which
they came. The case of keys, on records and in filters, changes no verdict. -/
theorem Record.ignores_key_case (path backend : String) (ts : List Tagging) :
    (∀ key, (tagged path backend ts).lookup key =
      ((Tagging.pairs ts).filter fun p =>
        Unicode.lowercase p.1 = Unicode.lowercase key).map (·.2)) ∧
    (∀ ps : List (String × String), Tagging.pairs (ps.map fun p => .insert p.1 p.2) = ps ∧
      Tagging.pairs (ps.map fun p => .withTag p.1 p.2) = ps ∧ Tagging.pairs [.withTags ps] = ps) ∧
    ∀ ts', List.Forall₂ Tagging.Recased ts ts' → ∀ e e' : Expr, e.Exchanges Value.Recased e' →
      e'.holds (tagged path backend ts').view = e.holds (tagged path backend ts).view := by
  refine ⟨?_, Tagging.pairs_of_one_way, ?_⟩
  · intro key
    rw [lookup, tags_tagged, TagList.values_ofPairs]
  · intro ts' hts e e' he
    rw [← tagged_recased hts path backend]
    have halike := he.mono fun _ _ h => h.alike (tagged path backend ts)
    exact (Expr.holds_of_exchanges halike).symm

/-- A record with street names. -/
def streetTags : List Tagging :=
  [.withTags [("ΟΔΟΣ", "1"), ("year", "7")], .insert "οδος" "2", .withTag "οδοσ" "3"]

/-- The same record with other spellings of the keys. -/
def recasedStreetTags : List Tagging :=
  [.withTags [("οδος", "1"), ("YEAR", "7")], .insert "ΟΔΟΣ" "2", .withTag "Οδοσ" "3"]

/-- The tree of a filter such as `%{street=*&} < 3`. -/
def streetTree (name : String) : Expr :=
  .comparison ⟨0, 16⟩ .less ⟨.tag ⟨name, .all⟩, ⟨0, 12⟩⟩ ⟨.integer 3, ⟨15, 16⟩⟩

/-- The last key ends in a sigma that is not the final one, so its value belongs to another key. -/
theorem Record.ignores_key_case_street :
    List.Forall₂ Tagging.Recased streetTags recasedStreetTags ∧
      (streetTree "ΟΔΟΣ").Exchanges Value.Recased (streetTree "Οδος") ∧
      (tagged "a.mp3" "" streetTags).lookup "ΟΔος" = ["1", "2"] ∧
      (streetTree "Οδος").holds (tagged "a.mp3" "" recasedStreetTags).view = true := by
  have hstreet : SameKey "ΟΔΟΣ" "οδος" := by decide +kernel
  have htags : List.Forall₂ Tagging.Recased streetTags recasedStreetTags :=
    .cons (.withTags (.cons ⟨hstreet, rfl⟩ (.cons ⟨by decide +kernel, rfl⟩ .nil)))
      (.cons (.insert "2" hstreet.symm) (.cons (.withTag "3" (by decide +kernel)) .nil))
  have htree : (streetTree "ΟΔΟΣ").Exchanges Value.Recased (streetTree "Οδος") :=
    .comparison (.tag .all (by decide +kernel)) (.refl _)
  obtain ⟨hlookup, -, hverdict⟩ := ignores_key_case "a.mp3" "" streetTags
  refine ⟨htags, htree, ?_, ?_⟩
  · rw [hlookup]
    decide +kernel
  · rw [hverdict recasedStreetTags htags _ _ htree]
    decide +kernel

end TagSieve
