import EditorBlocks.Data.Calendar
import EditorBlocks.Markup.Node
import EditorBlocks.Text.Digit
import EditorBlocks.Text.Lowercase
/-!
Values of form controls that have an order (dates, times and numbers), and whether a control's
value lies between its limits.
-/

namespace EditorBlocks.Selector

/-- The kinds of controls whose values have an order. -/
inductive InputKind
  | date
  | month
  | week
  | time
  | localMoment
  | number
  deriving DecidableEq

def InputKind.ofName? : String → Option InputKind
  | "date" => some date
  | "month" => some month
  | "week" => some week
  | "time" => some time
  | "datetime-local" => some localMoment
  | "number" | "range" => some number
  | _ => none

/-- The value of ASCII digits. -/
def digitsValue? (cs : List Char) : Option Nat :=
  if cs.isEmpty || !cs.all Char.isDigit then none
  else some (Text.asciiValue cs)

def twoDigits? (cs : List Char) : Option Nat := if cs.length == 2 then digitsValue? cs else none

/-- The number of days from the first of year one, a Monday, through the last of a year. -/
def daysThroughYear (year : Nat) : Nat := 365 * year + year / 4 - year / 100 + year / 400

/-- The weeks that a year may have. A year that begins or ends with a Thursday has 53; so many are
allowed too where the last day falls in the first week of the next year. -/
def weeksInYear (year : Nat) : Nat :=
  let firstWeekday := daysThroughYear (year - 1) % 7
  let lastWeekday := (daysThroughYear year + 6) % 7
  if firstWeekday == 3 || lastWeekday ≤ 3 then 53 else 52

def yearOf? (cs : List Char) : Option Nat := do
  let year ← if 4 ≤ cs.length then digitsValue? cs else none
  if 1 ≤ year then some year else none

def monthOf? (cs : List Char) : Option Nat := do
  let month ← twoDigits? cs
  if 1 ≤ month ∧ month ≤ 12 then some month else none

def dateOf? (text : String) : Option (List Nat) :=
  match text.splitOn "-" with
  | [y, m, d] => do
    let year ← yearOf? y.toList
    let month ← monthOf? m.toList
    let day ← twoDigits? d.toList
    if 1 ≤ day ∧ day ≤ Day.daysInMonth year month then some [year, month, day] else none
  | _ => none

def timeOf? (text : String) : Option (List Nat) :=
  match text.splitOn ":" with
  | [h, m] => do
    let hour ← twoDigits? h.toList
    let minute ← twoDigits? m.toList
    if hour ≤ 23 ∧ minute ≤ 59 then some [hour, minute] else none
  | _ => none

/-- A decimal number as an exact fraction of a power of ten: the digits and how many of them stand
after the point. -/
structure Decimal where
  digits : Int
  places : Nat

def Decimal.ofText? (text : String) : Option Decimal :=
  let (negative, cs) := match text.toList with
    | '-' :: rest => (true, rest)
    | rest => (false, rest)
  let whole := cs.takeWhile Char.isDigit
  let signed (n : Nat) : Int := if negative then -(n : Int) else n
  match cs.dropWhile Char.isDigit with
  | [] => (digitsValue? whole).map fun n => ⟨signed n, 0⟩
  | '.' :: fraction =>
    if fraction.isEmpty then none
    else (digitsValue? (whole ++ fraction)).map fun n => ⟨signed n, fraction.length⟩
  | _ => none

def Decimal.less (a b : Decimal) : Bool :=
  a.digits * Nat.pow 10 b.places < b.digits * Nat.pow 10 a.places

/-- A value with an order: its fields from the largest to the smallest, or a number. -/
inductive InputValue
  | fields (values : List Nat)
  | number (value : Decimal)

def InputValue.less : InputValue → InputValue → Bool
  | fields a, fields b => decide (a < b)
  | number a, number b => a.less b
  | _, _ => false

/-- The value that a text stands for in a control of this kind; one line break may follow it. -/
def InputValue.ofText? (kind : InputKind) (value : String) : Option InputValue :=
  let text := if value.toList.getLast? == some '\n' then String.ofList value.toList.dropLast
    else value
  match kind with
  | .date => (dateOf? text).map fields
  | .month =>
    match text.splitOn "-" with
    | [y, m] => do some (fields [← yearOf? y.toList, ← monthOf? m.toList])
    | _ => none
  | .week =>
    match text.splitOn "-W" with
    | [y, w] => do
      let year ← yearOf? y.toList
      let week ← twoDigits? w.toList
      if 1 ≤ week ∧ week ≤ weeksInYear year then some (fields [year, week]) else none
    | _ => none
  | .time => (timeOf? text).map fields
  | .localMoment =>
    match text.splitOn "T" with
    | [d, t] => do some (fields ((← dateOf? d) ++ (← timeOf? t)))
    | _ => none
  | .number => (Decimal.ofText? text).map number

/-- Whether the value of a control lies in its range, if it has limits. A control without a value
of its kind is in range, and times of day may run past midnight. -/
def isInRange? (tag : Tag) : Option Bool := do
  let kind ← InputKind.ofName? (Text.lowerAscii ((tag.attribute? "type").getD ""))
  let read (name : String) := (tag.attribute? name).bind (InputValue.ofText? kind)
  let low := read "min"
  let high := read "max"
  if low.isNone && high.isNone then none
  else match read "value" with
    | none => some true
    | some value =>
      let tooLow := low.any value.less
      let tooHigh := high.any fun limit => limit.less value
      match low, high with
      | some a, some b =>
        if kind = .time && b.less a then some (!(tooLow && tooHigh))
        else some (!(tooLow || tooHigh))
      | _, _ => some (!(tooLow || tooHigh))

end EditorBlocks.Selector
