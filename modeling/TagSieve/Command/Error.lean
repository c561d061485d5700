import TagSieve.Expr.Error
import TagSieve.Json.Error
import TagSieve.Record.Json

/-!
What can go wrong with a command.
-/

namespace TagSieve

inductive CommandError where
  | filter (e : ParseError)
  | json (e : JsonError)
  | record (index : Nat) (f : RecordFault)
  /-- The standard input is no text. -/
  | notText
  | noInput
  | unknownCategory (name : String)
deriving DecidableEq

namespace CommandError

def message (wording : RegexWording) : CommandError → String
  | filter e => e.message wording
  | json e => "invalid JSON: " ++ e.message
  | record index f => "invalid record #" ++ toString index ++ ": " ++ f.message
  | notText => "IO error: stream did not contain valid UTF-8"
  | noInput => "no input provided, use --input or pipe JSON to stdin"
  | unknownCategory name =>
    "unknown category: '" ++ name ++ "'\nRun 'tagfilter docs' to see available categories."

/-- What the user sees; errors of a filter are shown in its source. -/
def render (wording : RegexWording) (source : String) : CommandError → String
  | filter e => e.render wording source
  | e => "error: " ++ e.message wording

end CommandError

end TagSieve
