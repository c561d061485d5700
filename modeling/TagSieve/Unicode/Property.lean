import TagSieve.Unicode.Age
import TagSieve.Unicode.BinaryProperty
import TagSieve.Unicode.Script
import TagSieve.Unicode.Segmentation

/-!
The sets of characters that a property name stands for, as of Unicode 16. A bare name is a binary
property, a general category or a script, in this order. A name with a value asks for a general
category, a script, the characters that a script uses, a class of the rules for borders, or a
version of Unicode.
-/

namespace TagSieve.Unicode.Property

open Category

/-- The categories of letters, marks and numbers and their groups. -/
def wordCategoryTable : List (List String × Ranges) :=
  [(["lu", "uppercaseletter"], Sixteen.category uppercaseLetter),
   (["ll", "lowercaseletter"], Sixteen.category lowercaseLetter),
   (["lt", "titlecaseletter"], Sixteen.category titlecaseLetter),
   (["lc", "casedletter"],
    Sixteen.categories [uppercaseLetter, lowercaseLetter, titlecaseLetter]),
   (["lm", "modifierletter"], Sixteen.category modifierLetter),
   (["lo", "otherletter"], Sixteen.category otherLetter),
   (["l", "letter"], Sixteen.categories letters),
   (["mn", "nonspacingmark"], Sixteen.category nonspacingMark),
   (["mc", "spacingmark"], Sixteen.category spacingMark),
   (["me", "enclosingmark"], Sixteen.category enclosingMark),
   (["m", "mark", "combiningmark"], Sixteen.categories marks),
   (["nd", "decimalnumber", "digit"], Sixteen.digit),
   (["nl", "letternumber"], Sixteen.category letterNumber),
   (["no", "othernumber"], Sixteen.category otherNumber),
   (["n", "number"], Sixteen.categories numbers)]

/-- The categories of punctuation and symbols and their groups. -/
def symbolCategoryTable : List (List String × Ranges) :=
  [(["pc", "connectorpunctuation"], Sixteen.category connectorPunctuation),
   (["pd", "dashpunctuation"], Sixteen.category dashPunctuation),
   (["ps", "openpunctuation"], Sixteen.category openPunctuation),
   (["pe", "closepunctuation"], Sixteen.category closePunctuation),
   (["pi", "initialpunctuation"], Sixteen.category initialPunctuation),
   (["pf", "finalpunctuation"], Sixteen.category finalPunctuation),
   (["po", "otherpunctuation"], Sixteen.category otherPunctuation),
   (["p", "punctuation", "punct"], Sixteen.categories punctuation),
   (["sm", "mathsymbol"], Sixteen.category mathSymbol),
   (["sc", "currencysymbol"], Sixteen.category currencySymbol),
   (["sk", "modifiersymbol"], Sixteen.category modifierSymbol),
   (["so", "othersymbol"], Sixteen.category otherSymbol),
   (["s", "symbol"], Sixteen.categories symbols)]

/-- The categories of blanks, controls and unassigned code points and their groups. -/
def controlCategoryTable : List (List String × Ranges) :=
  [(["zs", "spaceseparator"], Sixteen.category spaceSeparator),
   (["zl", "lineseparator"], Sixteen.category lineSeparator),
   (["zp", "paragraphseparator"], Sixteen.category paragraphSeparator),
   (["z", "separator"], Sixteen.categories separators),
   (["cc", "control", "cntrl"], Sixteen.category control),
   (["cf", "format"], Sixteen.category format),
   (["co", "privateuse"], Sixteen.category privateUse),
   (["cn", "unassigned"], Sixteen.unassigned),
   (["c", "other"],
    Ranges.unionAll [Sixteen.categories [control, format, privateUse], Sixteen.unassigned])]

/-- The general categories and what is named like one. -/
def categoryTable : List (List String × Ranges) :=
  wordCategoryTable ++ symbolCategoryTable ++ controlCategoryTable ++
    [(["any"], Ranges.allCharacters), (["ascii"], [(0, 0x7F)]),
     (["assigned"], Sixteen.categories assigned)]

/-- The entry of a table under one of its names. -/
def find? (table : List (List String × Ranges)) (name : String) : Option (List String × Ranges) :=
  table.find? fun entry => entry.1.contains name

/-- What remains of a name without case, blanks, underscores, hyphens and all beyond ASCII. -/
def looseChars (cs : List Char) : List Char :=
  (cs.filter fun c => decide (c.toNat < 128) && c != ' ' && c != '_' && c != '-').map Char.toLower

/-- The loose form of a name. A leading `is` does not count, but in `isc`. -/
def looseName (cs : List Char) : String :=
  match cs with
  | a :: b :: rest =>
    if a.toLower = 'i' ∧ b.toLower = 's' then
      if looseChars rest = ['c'] then "isc" else String.ofList (looseChars rest)
    else String.ofList (looseChars cs)
  | _ => String.ofList (looseChars cs)

/-- The characters of a bare name. -/
def ofName? (cs : List Char) : Option Ranges :=
  let name := looseName cs
  let entry := (find? BinaryProperty.table name).or <| (find? categoryTable name).or <|
    find? Script.table name
  entry.map (·.2)

/-- The characters of a name with a value. -/
def ofValue? (name value : List Char) : Option Ranges :=
  let value := looseName value
  match looseName name with
  | "gc" | "generalcategory" => (find? categoryTable value).map (·.2)
  | "sc" | "script" => (find? Script.table value).map (·.2)
  | "scx" | "scriptextensions" =>
    (find? Script.table value).map fun (names, own) => Script.extended names own
  | "gcb" | "graphemeclusterbreak" => (find? Segmentation.graphemeTable value).map (·.2)
  | "wb" | "wordbreak" => (find? Segmentation.wordTable value).map (·.2)
  | "sb" | "sentencebreak" => (find? Segmentation.sentenceTable value).map (·.2)
  | "age" => Age.ofName? value
  | _ => none

end TagSieve.Unicode.Property
