import EditorBlocks.Data.Calendar
import EditorBlocks.Data.Json.Writer
import EditorBlocks.Log.Record
/-!
Log lines: a record at a moment, as an object for programs or as a short line for people.
-/

namespace EditorBlocks

/-- The moment so many seconds after the start of 1970, to the nearest millionth. -/
def Moment.ofSeconds? (x : Binary64) : Option Moment := x.toMillionths?.bind ofMicroseconds?

namespace Log

/-- A fault as lines report it. -/
def Raised.describe (r : Raised) : String :=
  if r.text.isEmpty then r.kind else r.kind ++ ": " ++ r.text

/-- The members of a line for programs. -/
def Record.members (r : Record) (time : Moment) : List (String × Value) :=
  [("timestamp", .str time.text), ("level", .str (Level.name r.level)), ("logger", .str r.logger),
    ("message", .str r.message)] ++ r.context.members
    ++ (r.raised.map fun raised => ("exception", Value.str raised.describe)).toList

/-- Why a record has no line. -/
inductive LineProblem
  /-- its time is not in the calendar -/
  | noMoment
  /-- the number of its post cannot be written -/
  | unwritable (problem : Json.Unwritable)
  deriving DecidableEq, Repr

/-- The moment at which a record was made, from the seconds since the start of 1970. -/
def madeAt (created : Binary64) : Except LineProblem Moment :=
  match Moment.ofSeconds? created with
  | some time => .ok time
  | none => .error .noMoment

/-- One line for programs, in ASCII. -/
def jsonLine (created : Binary64) (r : Record) : Except LineProblem String := do
  let time ← madeAt created
  (Json.write ⟨.ascii, none⟩ (.object (r.members time))).mapError .unwritable

def Level.symbol (level : Level) : String :=
  if level = debug then "·"
  else if level = info then "→"
  else if level = warning then "⚠"
  else if level = error then "✗"
  else if level = critical then "☠"
  else "?"

/-- What a record is about, in brackets; nothing if it is about nothing. -/
def Context.label (c : Context) : String :=
  let labels := (c.postId.map fun n => "post " ++ toString n).toList ++ c.blockName.toList
  if labels.isEmpty then "" else "[" ++ String.intercalate " " labels ++ "] "

/-- A short line for people. -/
def compactLine (time : Moment) (r : Record) : String :=
  time.clockSeconds ++ " " ++ Level.symbol r.level ++ " " ++ r.context.label ++ r.message

/-- How records become lines. -/
inductive LineStyle
  | json
  | compact
  deriving DecidableEq, Repr

/-- The line of a record. Both kinds write the number of its post. -/
def LineStyle.line (created : Binary64) (r : Record) : LineStyle → Except LineProblem String
  | json => jsonLine created r
  | compact => do
    let time ← madeAt created
    if r.context.postId.all Text.fitsDigitLimit then .ok (compactLine time r)
    else .error (.unwritable .tooManyDigits)

/-- The text of the records that a file takes: those that reach its level and have a line, each with
the end of a line. -/
def fileText (style : LineStyle) (level : Level) (records : List (Binary64 × Record)) : String :=
  let taken := records.filter fun r => level ≤ r.2.level
  String.join (taken.filterMap fun r => (style.line r.1 r.2).toOption.map (· ++ "\n"))

end Log
end EditorBlocks
