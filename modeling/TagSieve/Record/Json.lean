import TagSieve.Json.Value
import TagSieve.Record

/-!
Records as JSON: objects with a path, a backend and tags. Tags are written as a list of objects
with one member each, which keeps their order; an object that maps each key to a value or a list of
values is read as well.
-/

namespace TagSieve

/-- Why a JSON value is no record. -/
inductive RecordFault where
  | notRecords
  | notObject
  | fieldNotString (name : String)
  | tagsShape
  | entryNotObject
  | tagValue (key : String)
deriving DecidableEq

def RecordFault.message : RecordFault → String
  | notRecords => "expected an array of records"
  | notObject => "a record must be an object"
  | fieldNotString name => "'" ++ name ++ "' must be a string"
  | tagsShape => "'tags' must be an array or an object"
  | entryNotObject => "tag list entries must be objects"
  | tagValue key => "value of tag '" ++ key ++ "' must be a string or a number"

namespace Json

/-- The text of a tag value; numbers count as their text. -/
def tagText (key : String) : Json → Except RecordFault String
  | string s => .ok s
  | number n => .ok (String.ofList n.chars)
  | _ => .error (.tagValue key)

/-- The tags of a member whose value is one text. -/
def tagPair (m : String × Json) : Except RecordFault (String × String) :=
  (tagText m.1 m.2).map fun s => (m.1, s)

/-- The tags of a member whose value may be a list. -/
def tagPairs (m : String × Json) : Except RecordFault (List (String × String)) :=
  match m.2 with
  | array values => values.mapM fun v => tagPair (m.1, v)
  | _ => (tagPair m).map fun p => [p]

/-- The tags of an entry of a tag list. -/
def entryPairs : Json → Except RecordFault (List (String × String))
  | object members => members.mapM tagPair
  | _ => .error .entryNotObject

/-- The tags of a record, in the order of the document. -/
def recordPairs : Json → Except RecordFault (List (String × String))
  | array entries => (entries.mapM entryPairs).map List.flatten
  | object members => (members.mapM tagPairs).map List.flatten
  | null => .ok []
  | _ => .error .tagsShape

/-- A text field of a record; it is empty if it is missing or null. -/
def textField (members : List (String × Json)) (name : String) : Except RecordFault String :=
  match member? name members with
  | some (string s) => .ok s
  | none | some null => .ok ""
  | some _ => .error (.fieldNotString name)

/-- The record of an object. -/
def toRecord : Json → Except RecordFault Record
  | object members =>
    (textField members "path").bind fun path =>
      (textField members "backend").bind fun backend =>
        (recordPairs ((member? "tags" members).getD null)).map fun pairs =>
          ⟨path, backend, TagList.ofPairs pairs⟩
  | _ => .error .notObject

/-- The records of the items from a position on, or the first item that is none. -/
def itemRecords (index : Nat) : List Json → Except (Nat × RecordFault) (List Record)
  | [] => .ok []
  | v :: rest =>
    match toRecord v with
    | .error f => .error (index, f)
    | .ok r => (itemRecords (index + 1) rest).map (r :: ·)

/-- The records of a document: an array of objects, or one object by itself. -/
def toRecords : Json → Except (Nat × RecordFault) (List Record)
  | array items => itemRecords 0 items
  | object members => itemRecords 0 [object members]
  | _ => .error (0, .notRecords)

end Json

/-- A record as JSON, with its tags in order. -/
def Record.toJson (r : Record) : Json :=
  .object [("backend", .string r.backend), ("path", .string r.path),
    ("tags", .array (r.tags.tags.map fun t => .object [(t.key, .string t.value)]))]

/-- Records as a JSON document. -/
def Record.listToJson (rs : List Record) : Json := .array (rs.map Record.toJson)

end TagSieve
