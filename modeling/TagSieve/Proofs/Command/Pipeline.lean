import TagSieve.Command.Invocation
import TagSieve.Proofs.Command.Complement
import TagSieve.Proofs.Json.RoundTrip
import TagSieve.Proofs.Record.RoundTrip

/-! Checks one after another. The document of the records that a check has selected is read as these
records, so the check behind it goes on where the first one stopped. -/
namespace TagSieve

open Json (Textual Ordered Blank)

variable {input : Option String} {f : Filter} {rs kept : List Record} {close : List Char}

namespace Record

theorem textual_tag (n : Nat) (t : Tag) : Textual (n + 1) (.object [(t.key, .string t.value)]) := by
  refine .object (List.pairwise_singleton _ _) ?_
  intro m hm
  obtain rfl := List.mem_singleton.mp hm
  exact .string n t.value

theorem ordered_toJson (backend path tags : Json) :
    Ordered [("backend", backend), ("path", path), ("tags", tags)] := by
  have hpath : Json.keyBefore "backend" "path" = true := by decide
  have htags : Json.keyBefore "path" "tags" = true := by decide
  have hends : Json.keyBefore "backend" "tags" = true := by decide
  simp [Ordered, hpath, htags, hends]

theorem textual_toJson (n : Nat) (r : Record) : Textual (n + 3) r.toJson := by
  have htags : Textual (n + 2)
      (.array (r.tags.tags.map fun t => .object [(t.key, .string t.value)])) := by
    refine .array ?_
    intro v hv
    obtain ⟨t, -, rfl⟩ := List.mem_map.mp hv
    exact textual_tag n t
  refine .object (ordered_toJson _ _ _) ?_
  intro m hm
  simp only [List.mem_cons, List.not_mem_nil, or_false] at hm
  rcases hm with rfl | rfl | rfl
  · exact .string _ r.backend
  · exact .string _ r.path
  · exact htags

/-- A document of records opens four brackets: its own, those of a record, of the tags and of a
tag. -/
theorem textual_listToJson (n : Nat) (rs : List Record) : Textual (n + 4) (listToJson rs) := by
  refine .array ?_
  intro v hv
  obtain ⟨r, -, rfl⟩ := List.mem_map.mp hv
  exact textual_toJson n r

end Record

namespace CheckOptions

theorem stored_of_records (h : records input = .ok rs) : ∀ r ∈ rs, r.tags.Stored := by
  cases input with
  | none => cases h
  | some text =>
    simp only [records] at h
    cases hparse : Json.parse text with
    | error e => simp [hparse] at h
    | ok v =>
      simp only [hparse] at h
      cases hrecords : v.toRecords with
      | error fault => simp [hrecords] at h
      | ok rs' =>
        simp only [hrecords, Except.ok.injEq] at h
        subst h
        exact Json.stored_of_toRecords hrecords

theorem stored_of_selected (f : Filter) (h : records input = .ok rs) :
    ∀ r ∈ rs.filter f.accepts, r.tags.Stored := by
  intro r hr
  exact stored_of_records h r (List.mem_of_mem_filter hr)

theorem records_of_parse {text : String} (h : ∀ r ∈ rs, r.tags.Stored)
    (hparse : Json.parse text = .ok (Record.listToJson rs)) : records (some text) = .ok rs := by
  have hread : (Record.listToJson rs).toRecords = .ok rs := Json.itemRecords_toJson h 0
  simp [records, hparse, hread]

/-- Records are read back from their document on one line or indented, also with blanks behind
it. -/
theorem records_listToJson (h : ∀ r ∈ rs, r.tags.Stored) (hclose : Blank close) :
    records (some ((Record.listToJson rs).compactText ++ String.ofList close)) = .ok rs ∧
      records (some ((Record.listToJson rs).prettyText ++ String.ofList close)) = .ok rs := by
  have htextual : Textual (Json.depthLimit - 1) (Record.listToJson rs) :=
    Record.textual_listToJson 123 rs
  constructor
  · refine records_of_parse h ?_
    rw [Json.compactText, ← String.ofList_append]
    exact Json.parse_of_reads (Json.reads_compact htextual) hclose
  · refine records_of_parse h ?_
    rw [Json.prettyText, ← String.ofList_append]
    exact Json.parse_of_reads (Json.reads_pretty htextual 0) hclose

theorem result_run_selected (f : Filter) (h : records input = .ok rs) :
    (run ⟨f.source, input, false, false⟩).result = .ok (.selected (rs.filter f.accepts)) := by
  rw [result_run_straight, h]
  rfl

theorem exists_records_of_selected
    (h : (run ⟨f.source, input, false, false⟩).result = .ok (.selected kept)) :
    ∃ rs, records input = .ok rs ∧ kept = rs.filter f.accepts := by
  have hrun := h.symm.trans (result_run_straight f input false)
  cases hrecords : records input with
  | error e => simp [hrecords, Except.map] at hrun
  | ok rs =>
    simp only [hrecords, Except.map, Bool.false_eq_true, if_false, Except.ok.injEq,
      CheckResult.selected.injEq] at hrun
    exact ⟨rs, rfl, hrun⟩

/-- The two filters joined select what the second one selects from what the first one has
selected. -/
theorem result_run_and (f g : Filter) (h : records input = .ok rs) :
    (run ⟨"(" ++ f.source ++ ") && (" ++ g.source ++ ")", input, false, false⟩).result =
      .ok (.selected ((rs.filter f.accepts).filter g.accepts)) := by
  have htext : ("(" ++ f.source ++ ") && (" ++ g.source ++ ")").toList =
      '(' :: (f.source.toList ++ [')']) ++
        ' ' :: (Connective.and.chars ++ ' ' :: '(' :: (g.source.toList ++ [')'])) := by
    simp [Connective.chars]
  obtain ⟨both, hparse, -, hverdict⟩ := f.composes_logical g .and htext
  have haccepts : both.accepts = fun r => f.accepts r && g.accepts r := by
    funext r
    exact hverdict r.view
  have hrun := result_run_of_parse hparse input false false
  simp only [h, haccepts, Bool.bne_false] at hrun
  rw [hrun, List.filter_filter]
  simp [Except.map, Bool.and_comm]

/-- Checks can be piped: the document of what a filter selects, on one line or indented, passes the
same filter unchanged, and another filter selects from it what the two joined select from the
input. -/
theorem pipes (f g : Filter) (input : String) (kept : List Record)
    (h : (run ⟨f.source, some input, false, false⟩).result = .ok (.selected kept)) :
    ∀ text ∈ [(Record.listToJson kept).compactText, (Record.listToJson kept).prettyText],
      (run ⟨f.source, some text, false, false⟩).result = .ok (.selected kept) ∧
        ∃ rest, (run ⟨g.source, some text, false, false⟩).result = .ok (.selected rest) ∧
          (run ⟨"(" ++ f.source ++ ") && (" ++ g.source ++ ")", some input, false, false⟩).result =
            .ok (.selected rest) := by
  obtain ⟨rs, hrecords, rfl⟩ := exists_records_of_selected h
  intro text htext
  have hread : records (some text) = .ok (rs.filter f.accepts) := by
    have hboth := records_listToJson (stored_of_selected f hrecords) Json.blank_nil
    simp only [String.ofList_nil, String.append_empty] at hboth
    simp only [List.mem_cons, List.not_mem_nil, or_false] at htext
    rcases htext with rfl | rfl
    · exact hboth.1
    · exact hboth.2
  refine ⟨?_, _, result_run_selected g hread, result_run_and f g hrecords⟩
  have hagain := result_run_selected f hread
  rwa [List.filter_filter, List.filter_congr fun r _ => Bool.and_self (f.accepts r)] at hagain

def yearFilter : Filter where
  source := String.ofList "%year >= 2000".toList
  expr := .comparison ⟨0, 13⟩ .greaterEqual ⟨.tag ⟨"year", .unset⟩, ⟨0, 5⟩⟩ ⟨.integer 2000, ⟨9, 13⟩⟩
  parsed := by
    unfold Parsing.ofSource Lexer.ofString
    rw [String.toList_ofList]
    decide +kernel

def decadeFilter : Filter where
  source := String.ofList "%year < 2010".toList
  expr := .comparison ⟨0, 12⟩ .less ⟨.tag ⟨"year", .unset⟩, ⟨0, 5⟩⟩ ⟨.integer 2010, ⟨8, 12⟩⟩
  parsed := by
    unfold Parsing.ofSource Lexer.ofString
    rw [String.toList_ofList]
    decide +kernel

/-- Three records whose years are numbers, under keys that are not in lower case. -/
def yearsChars : List Char :=
  "[\x7b\"tags\":\x7b\"Year\":2001\x7d\x7d,\x7b\"tags\":\x7b\"Year\":1999\x7d\x7d,".toList ++
    "\x7b\"tags\":\x7b\"YEAR\":2012\x7d\x7d]".toList

def yearsInput : String := String.ofList yearsChars

def yearRecord (year : String) : Record := ⟨"", "", ⟨[⟨"year", year⟩]⟩⟩

def recentRecords : List Record := [yearRecord "2001", yearRecord "2012"]

theorem records_yearsInput : records (some yearsInput) =
    .ok [yearRecord "2001", yearRecord "1999", yearRecord "2012"] := by
  have hread : ((Json.readDocument yearsChars).toOption.bind fun v => v.toRecords.toOption) =
      some [yearRecord "2001", yearRecord "1999", yearRecord "2012"] := by decide +kernel
  obtain ⟨v, hdocument, hrecords⟩ := Option.bind_eq_some_iff.mp hread
  rw [toOption_eq_some] at hdocument hrecords
  have hparse : Json.parse yearsInput = .ok v := by
    simp only [Json.parse, yearsInput, String.toList_ofList, hdocument]
  simp only [records, hparse, hrecords]

theorem result_run_yearsInput :
    (run ⟨yearFilter.source, some yearsInput, false, false⟩).result =
      .ok (.selected recentRecords) := by
  have hrecent : [yearRecord "2001", yearRecord "1999", yearRecord "2012"].filter
      yearFilter.accepts = recentRecords := by decide +kernel
  rw [result_run_selected yearFilter records_yearsInput, hrecent]

/-- The years are text in the second document, which selects as the numbers of the first one do. -/
theorem pipes_years :
    (run ⟨yearFilter.source, some yearsInput, false, false⟩).result =
        .ok (.selected recentRecords) ∧
      (run ⟨yearFilter.source, some (Record.listToJson recentRecords).prettyText, false,
        false⟩).result = .ok (.selected recentRecords) ∧
      ∃ rest, (run ⟨decadeFilter.source, some (Record.listToJson recentRecords).prettyText, false,
          false⟩).result = .ok (.selected rest) ∧
        (run ⟨"(" ++ yearFilter.source ++ ") && (" ++ decadeFilter.source ++ ")", some yearsInput,
          false, false⟩).result = .ok (.selected rest) := by
  have hpretty : (Record.listToJson recentRecords).prettyText ∈
      [(Record.listToJson recentRecords).compactText,
        (Record.listToJson recentRecords).prettyText] := by simp
  exact ⟨result_run_yearsInput,
    pipes yearFilter decadeFilter yearsInput recentRecords result_run_yearsInput _ hpretty⟩

end CheckOptions

namespace Invocation

variable (wording : RegexWording)

/-- A command that selects records as JSON prints a document of them, with a line end behind it. -/
theorem records_selectedText (h : ∀ r ∈ rs, r.tags.Stored) (indented : Bool) :
    CheckOptions.records (some (selectedText true indented rs)) = .ok rs := by
  have hline : Blank ['\n'] := by simp [Blank, Json.isBlank]
  obtain ⟨hcompact, hpretty⟩ := CheckOptions.records_listToJson h hline
  cases indented with
  | false => exact hcompact
  | true => exact hpretty

theorem run_check_of_records {source : String} {given : Option String} {stdin : ByteArray}
    (hinput : withInput ⟨source, given, false, false⟩ stdin = .ok ⟨source, input, false, false⟩)
    (h : (CheckOptions.run ⟨source, input, false, false⟩).result = .ok (.selected rs))
    (json pretty : Bool) :
    run wording ⟨false, .check ⟨source, given, false, false⟩ json pretty⟩ stdin =
      ⟨0, selectedText json pretty rs, ""⟩ := by
  simp [run_check hinput wording, h]

/-- The standard output of one check as the standard input of another: the two commands leave behind
what one command with the joined filter does. -/
theorem run_piped (f g : Filter) (given : Option String) (stdin : ByteArray)
    (indented json pretty : Bool)
    (h : (run wording ⟨false, .check ⟨f.source, given, false, false⟩ true indented⟩ stdin).code = 0) :
    run wording ⟨false, .check ⟨g.source, none, false, false⟩ json pretty⟩
        (run wording ⟨false, .check ⟨f.source, given, false, false⟩ true indented⟩ stdin).stdout.toUTF8 =
      run wording ⟨false, .check ⟨"(" ++ f.source ++ ") && (" ++ g.source ++ ")", given, false, false⟩ json
        pretty⟩ stdin := by
  rcases withInput_cases ⟨f.source, given, false, false⟩ stdin with
    ⟨-, input, hinput⟩ | ⟨-, hinput⟩
  · cases hrecords : CheckOptions.records input with
    | error e =>
      have hfailed := CheckOptions.result_run_straight f input false
      simp [run_check (hinput f.source) wording, hfailed, hrecords, Except.map] at h
    | ok rs =>
      have hfirst := run_check_of_records wording (hinput f.source)
        (CheckOptions.result_run_selected f hrecords) true indented
      have hread :=
        records_selectedText (CheckOptions.stored_of_selected f hrecords) indented
      rw [hfirst, run_check_of_records wording (withInput_toUTF8 rfl _)
        (CheckOptions.result_run_selected g hread), run_check_of_records wording (hinput _)
        (CheckOptions.result_run_and f g hrecords)]
  · simp [run, Command.result, hinput] at h

end Invocation

end TagSieve
