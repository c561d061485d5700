import TagSieve.Unicode.Lowercase

/-!
Records of audio files with their tags. A file may carry a key several times, and the order
matters; keys are the same if their lowercase forms are.
-/

namespace TagSieve

structure Tag where
  key : String
  value : String
deriving DecidableEq

/-- A tag under the lowercase form of a key. -/
def Tag.of (key value : String) : Tag := ⟨Unicode.lowercase key, value⟩

/-- Tags in the order of the file. -/
structure TagList where
  tags : List Tag
deriving DecidableEq

namespace TagList
variable {key value : String}

def empty : TagList := ⟨[]⟩

/-- Appends a tag behind all others. -/
def insert (l : TagList) (key value : String) : TagList := ⟨l.tags ++ [Tag.of key value]⟩

/-- The tags of some pairs, in their order. -/
def ofPairs (pairs : List (String × String)) : TagList := ⟨pairs.map fun p => Tag.of p.1 p.2⟩

/-- The tags of a key, in their order. -/
def findAll (l : TagList) (key : String) : TagList :=
  ⟨l.tags.filter (·.key == Unicode.lowercase key)⟩

/-- The values of a key, in their order. -/
def values (l : TagList) (key : String) : List String := (l.findAll key).tags.map (·.value)

def size (l : TagList) : Nat := l.tags.length

def get? (l : TagList) (i : Nat) : Option Tag := l.tags[i]?

/-- All values with a separator between them. -/
def join (l : TagList) (glue : String) : String := glue.intercalate (l.tags.map (·.value))

theorem ofPairs_append (ps : List (String × String)) :
    ofPairs (ps ++ [(key, value)]) = (ofPairs ps).insert key value := by
  simp [ofPairs, insert]

theorem values_insert (l : TagList) (k : String) :
    (l.insert key value).values k =
      l.values k ++ if Unicode.lowercase key = Unicode.lowercase k then [value] else [] := by
  by_cases h : Unicode.lowercase key = Unicode.lowercase k <;>
    simp [values, findAll, insert, Tag.of, h]

end TagList

structure Record where
  path : String
  /-- The program that read the tags. -/
  backend : String
  tags : TagList
deriving DecidableEq

namespace Record

def withTag (r : Record) (key value : String) : Record := { r with tags := r.tags.insert key value }

def lookup (r : Record) (key : String) : List String := r.tags.values key

end Record

end TagSieve
