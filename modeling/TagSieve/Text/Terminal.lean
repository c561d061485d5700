/-!
Text as a log file may hold it: without what would command a terminal. Control characters go, but
for blanks and line ends, and so do whole control sequences, which start with an escape. A sequence
is followed through the states of a video terminal, which reads bytes.
-/

namespace TagSieve.Terminal

/-- Where a terminal stands in a control sequence. A device control string, a command to the
operating system and the other strings run on until they are ended. -/
inductive State where
  | ground
  | escape
  | escapeIntermediate
  | controlEntry
  | controlParameter
  | controlIntermediate
  | controlIgnore
  | deviceEntry
  | deviceParameter
  | deviceIntermediate
  | deviceIgnore
  | deviceString
  | commandString
  | otherString
deriving DecidableEq

namespace State

/-- What a character behind an escape starts. -/
def ofEscaped : Char → State
  | '[' => controlEntry
  | ']' => commandString
  | 'P' => deviceEntry
  | 'X' | '^' | '_' => otherString
  | _ => ground

/-- The next state after a character of ASCII that does not break off the sequence. -/
def proceed (s : State) (c : Char) : State :=
  match s with
  | ground => ground
  | escape => if c < ' ' then escape else if c < '0' then escapeIntermediate else ofEscaped c
  | escapeIntermediate => if c < '0' then escapeIntermediate else ground
  | controlEntry =>
    if c < ' ' then controlEntry else if c < '0' then controlIntermediate
    else if c < '@' then controlParameter else ground
  | controlParameter =>
    if c < ' ' then controlParameter else if c < '0' then controlIntermediate
    else if c < '<' then controlParameter else if c < '@' then controlIgnore else ground
  | controlIntermediate =>
    if c < '0' then controlIntermediate else if c < '@' then controlIgnore else ground
  | controlIgnore => if c < '@' then controlIgnore else ground
  | deviceEntry =>
    if c < ' ' then deviceEntry else if c < '0' then deviceIntermediate
    else if c < '@' then deviceParameter else deviceString
  | deviceParameter =>
    if c < ' ' then deviceParameter else if c < '0' then deviceIntermediate
    else if c < '<' then deviceParameter else if c < '@' then deviceIgnore else deviceString
  | deviceIntermediate =>
    if c < '0' then deviceIntermediate else if c < '@' then deviceIgnore else deviceString
  | deviceIgnore => deviceIgnore
  | deviceString => deviceString
  | commandString => if c = '\x07' then ground else commandString
  | otherString => otherString

/-- The next state after a character of ASCII. Cancel, substitute and escape end every sequence,
and delete does nothing. -/
def next (s : State) (c : Char) : State :=
  if c = '\x18' ∨ c = '\x1a' then ground
  else if c = '\x1b' then escape
  else if c = '\x7f' then s
  else s.proceed c

/-- Whether control characters within the sequence are obeyed at once. -/
def obeysControls : State → Bool
  | ground | escape | escapeIntermediate => true
  | controlEntry | controlParameter | controlIntermediate | controlIgnore => true
  | _ => false

/-- Whether the byte `9C` ends the string. -/
def endsAtByte : State → Bool
  | deviceIgnore | deviceString | otherString => true
  | _ => false

/-- The next state after a character beyond ASCII, whose bytes mean nothing else. -/
def nextWide (s : State) (c : Char) : State :=
  if s.endsAtByte && (String.utf8EncodeChar c).contains 0x9C then ground else s

end State

/-- The control characters that are kept: tabs and line ends. -/
def isBlankControl (c : Char) : Bool := c == '\t' || c == '\n' || c == '\x0c' || c == '\r'

/-- The characters of ASCII that are kept outside sequences. -/
def isKept (c : Char) : Bool := (' ' ≤ c && c ≤ '~') || isBlankControl c

/-- A reader that passes text on or skips a sequence. A kept control character within a sequence
makes it pass text on until a control character goes; then the sequence goes on. -/
structure Reader where
  passing : Bool
  state : State

namespace Reader

def start : Reader := ⟨false, .ground⟩

/-- Takes a character, and says whether it is kept. -/
def read (r : Reader) (c : Char) : Reader × Bool :=
  if 128 ≤ c.toNat then
    if r.passing ∨ r.state = .ground then (⟨true, .ground⟩, true)
    else (⟨false, r.state.nextWide c⟩, false)
  else if isKept c ∧
      (r.passing ∨ r.state = .ground ∨ (isBlankControl c ∧ r.state.obeysControls)) then
    (⟨true, r.state⟩, true)
  else (⟨false, r.state.next c⟩, false)

/-- What is kept of a text. -/
def keep (r : Reader) : List Char → List Char
  | [] => []
  | c :: rest =>
    match r.read c with
    | (r, true) => c :: keep r rest
    | (r, false) => keep r rest

end Reader

/-- A text without control sequences. -/
def plain (s : String) : String := String.ofList (Reader.start.keep s.toList)

end TagSieve.Terminal
