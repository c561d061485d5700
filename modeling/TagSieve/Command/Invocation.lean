import TagSieve.Command.Check
import TagSieve.Command.Docs
import TagSieve.Text.Terminal

/-!
The commands of the command line: reading the arguments, and what a command prints for some
standard input.
-/

namespace TagSieve

inductive Command where
  /-- Runs a filter. Without an input of its own the records come from the standard input. -/
  | check (options : CheckOptions) (json pretty : Bool)
  /-- Shows the tree of a filter. -/
  | tree (filter : String)
  | overview
  | document (category : String)
  | version

structure Invocation where
  verbose : Bool
  command : Command

namespace Invocation

/-- The options and the other arguments seen so far. -/
structure Arguments where
  verbose : Bool
  version : Bool
  json : Bool
  pretty : Bool
  invert : Bool
  syntaxOnly : Bool
  input : Option String
  words : List String

def Arguments.none : Arguments := ⟨false, false, false, false, false, false, .none, []⟩

def Arguments.addWord (a : Arguments) (w : String) : Arguments := { a with words := a.words ++ [w] }

/-- A cluster of one-letter options; the input takes the rest of the cluster or the next
argument. -/
def shortOptions (a : Arguments) : List Char → List String → Option (Arguments × List String)
  | [], rest => some (a, rest)
  | 'v' :: cs, rest => shortOptions { a with verbose := true } cs rest
  | 'V' :: cs, rest => shortOptions { a with version := true } cs rest
  | 'j' :: cs, rest => shortOptions { a with json := true } cs rest
  | 'p' :: cs, rest => shortOptions { a with pretty := true } cs rest
  | 'i' :: '=' :: cs, rest => some ({ a with input := some (String.ofList cs) }, rest)
  | ['i'], value :: rest => some ({ a with input := some value }, rest)
  | 'i' :: c :: cs, rest => some ({ a with input := some (String.ofList (c :: cs)) }, rest)
  | _, _ => .none

/-- An option with a name. -/
def longOption (a : Arguments) (name : String) (rest : List String) :
    Option (Arguments × List String) :=
  match name, rest with
  | "--verbose", _ => some ({ a with verbose := true }, rest)
  | "--version", _ => some ({ a with version := true }, rest)
  | "--json", _ => some ({ a with json := true }, rest)
  | "--pretty", _ => some ({ a with pretty := true }, rest)
  | "--invert", _ => some ({ a with invert := true }, rest)
  | "--syntax-only", _ => some ({ a with syntaxOnly := true }, rest)
  | "--input", value :: rest => some ({ a with input := some value }, rest)
  | _, _ =>
    let given := "--input=".toList
    if given.isPrefixOf name.toList then
      some ({ a with input := some (String.ofList (name.toList.drop given.length)) }, rest)
    else .none

/-- Takes the arguments in, at most `fuel` of them; behind `--` all are words. -/
def readArguments : Nat → Arguments → List String → Option Arguments
  | _, a, [] => some a
  | 0, _, _ :: _ => .none
  | fuel + 1, a, w :: rest =>
    if w = "--" then some (rest.foldl Arguments.addWord a)
    else
      match w.toList with
      | '-' :: '-' :: _ => (longOption a w rest).bind fun (a, rest) => readArguments fuel a rest
      | '-' :: c :: cs =>
        (shortOptions a (c :: cs) rest).bind fun (a, rest) => readArguments fuel a rest
      | _ => readArguments fuel (a.addWord w) rest

/-- What the arguments ask for, if they make sense. -/
def ofArguments? (args : List String) : Option Invocation :=
  (readArguments args.length .none args).bind fun a =>
    if a.version then some ⟨a.verbose, .version⟩
    else
      match a.words with
      | ["check", filter] =>
        some ⟨a.verbose, .check ⟨filter, a.input, a.syntaxOnly, a.invert⟩ a.json a.pretty⟩
      | ["ast", filter] => some ⟨a.verbose, .tree filter⟩
      | ["docs"] => some ⟨a.verbose, .overview⟩
      | ["doc", category] => some ⟨a.verbose, .document category⟩
      | _ => .none

/-- What a command leaves behind. -/
structure Outcome where
  code : UInt32
  stdout : String
  stderr : String

/-- A message on several lines has all but the first moved in by four columns. -/
def indentLines (cs : List Char) : List Char :=
  cs.flatMap fun c => if c = '\n' then ['\n', ' ', ' ', ' ', ' '] else [c]

/-- The log as the user sees it, without the lines of tracing and without control sequences. -/
def logText (events : List Event) : String :=
  String.join ((Event.lines events).filterMap fun (level, target, message) =>
    if level = .debug then
      some <| Terminal.plain <| "[" ++ level.name ++ " " ++ target ++ "] " ++
        String.ofList (indentLines message.toList) ++ "\n"
    else .none)

/-- The records that a check has selected. -/
def selectedText (json pretty : Bool) (rs : List Record) : String :=
  if json then
    let document := Record.listToJson rs
    (if pretty then document.prettyText else document.compactText) ++ "\n"
  else linesText (rs.map (·.path))

/-- The input of a check. The standard input is read only if nothing else is given and the filter
is to be used; it has to be text. -/
def withInput (o : CheckOptions) (stdin : ByteArray) : Except CommandError CheckOptions :=
  if o.input.isSome || o.syntaxOnly then .ok o
  else
    match String.fromUTF8? stdin with
    | some text => .ok { o with input := some text }
    | none => .error .notText

theorem withInput_toUTF8 {o : CheckOptions} (h : (o.input.isSome || o.syntaxOnly) = false)
    (text : String) : withInput o text.toUTF8 = .ok { o with input := some text } := by
  have hdecoded : String.fromUTF8? text.toUTF8 = some text := dif_pos text.isValidUTF8
  unfold withInput
  rw [h, hdecoded]
  rfl

/-- A check has its input, or none that it needs, unless it reads a standard input that is no text.
What its filter is does not matter. -/
theorem withInput_cases (o : CheckOptions) (stdin : ByteArray) :
    ((o.input.isSome ∨ o.syntaxOnly ∨ (String.fromUTF8? stdin).isSome) ∧
        ∃ input, ∀ filter, withInput { o with filter := filter } stdin =
          .ok { o with filter := filter, input := input }) ∨
      (¬ (o.input.isSome ∨ o.syntaxOnly ∨ (String.fromUTF8? stdin).isSome) ∧
        ∀ filter, withInput { o with filter := filter } stdin = .error .notText) := by
  cases hgiven : o.input.isSome || o.syntaxOnly with
  | true =>
    refine .inl ⟨?_, o.input, fun _ => if_pos hgiven⟩
    rcases Bool.or_eq_true_iff.mp hgiven with hinput | hsyntax
    · exact .inl hinput
    · exact .inr (.inl hsyntax)
  | false =>
    obtain ⟨hinput, hsyntax⟩ := Bool.or_eq_false_iff.mp hgiven
    cases hdecoded : String.fromUTF8? stdin with
    | some text =>
      refine .inl ⟨.inr (.inr rfl), some text, ?_⟩
      intro filter
      simp [withInput, hinput, hsyntax, hdecoded]
    | none =>
      refine .inr ⟨by simp [hinput, hsyntax], ?_⟩
      intro filter
      simp [withInput, hinput, hsyntax, hdecoded]

/-- Whether a command reads the standard input. -/
def readsInput (i : Invocation) : Bool :=
  match i.command with
  | .check options _ _ => options.input.isNone && !options.syntaxOnly
  | _ => false

/-- What a command prints, and the source in which its errors are shown. -/
def Command.result (stdin : ByteArray) :
    Command → String × Traced Event (Except CommandError String)
  | .check options json pretty =>
    (options.filter,
      match withInput options stdin with
      | .error e => .pure (.error e)
      | .ok o => o.run.map fun r => r.map fun
        | .syntaxValid => "Syntax is valid\n"
        | .selected rs => selectedText json pretty rs)
  | .tree filter =>
    (filter, (Filter.parse filter).map fun r =>
      match r with
      | .ok f => .ok (f.expr.report ++ "\n")
      | .error e => .error (.filter e))
  | .overview => ("", .pure (.ok DocCategory.overview))
  | .document category => ("", .pure (DocCategory.textOfName category))
  | .version => ("", .pure (.ok "tagfilter 0.2.0\n"))

/-- Runs a command on a standard input. Errors go to the standard error, behind the log. -/
def run (wording : RegexWording) (i : Invocation) (stdin : ByteArray) : Outcome :=
  let (source, t) := Command.result stdin i.command
  let log := if i.verbose then logText t.steps else ""
  match t.result with
  | .ok out => ⟨0, out, log⟩
  | .error e => ⟨1, "", log ++ e.render wording source ++ "\n"⟩

theorem run_check {o o' : CheckOptions} {stdin : ByteArray} (h : withInput o stdin = .ok o')
    (wording : RegexWording) (verbose json pretty : Bool) :
    run wording ⟨verbose, .check o json pretty⟩ stdin =
      let log := if verbose then logText o'.run.steps else ""
      match o'.run.result with
      | .ok .syntaxValid => ⟨0, "Syntax is valid\n", log⟩
      | .ok (.selected rs) => ⟨0, selectedText json pretty rs, log⟩
      | .error e => ⟨1, "", log ++ e.render wording o.filter ++ "\n"⟩ := by
  simp only [run, Command.result, h, Traced.result_map]
  cases o'.run.result with
  | error e => rfl
  | ok r =>
    cases r with
    | syntaxValid => rfl
    | selected rs => rfl

end Invocation

end TagSieve
