import EditorBlocks.Data.Value
import EditorBlocks.Data.Yaml.Node
import EditorBlocks.Number.Decimal
import EditorBlocks.Text.Base64
/-!
Reading YAML text: the data that the one document of a text stands for.
-/

namespace EditorBlocks.Yaml

/-! ### Scalars -/

/-- The sign of a number and what follows it. -/
def splitSign : List Char → Bool × List Char
  | '-' :: rest => (true, rest)
  | '+' :: rest => (false, rest)
  | cs => (false, cs)

/-- The parts between colons. -/
def colonParts (cs : List Char) : List (List Char) := cs.splitOn ':'

def orImpossible {α : Type} : Option α → Except Problem α
  | some a => .ok a
  | none => .error .impossible

def decimal? (cs : List Char) : Option Int := Text.parseInt? (String.ofList cs)

def octal? (cs : List Char) : Option Nat :=
  match cs with
  | '0' :: 'o' :: digits => wholeOfDigits? 8 digits
  | cs => wholeOfDigits? 8 cs

/-- A whole number, in the base that its first characters show. -/
def wholeMagnitude? (cs : List Char) : Option Int :=
  match cs with
  | ['0'] => some 0
  | '0' :: 'b' :: digits => (wholeOfDigits? 2 digits).map Int.ofNat
  | '0' :: 'x' :: digits => (wholeOfDigits? 16 digits).map Int.ofNat
  | '0' :: _ => (octal? cs).map Int.ofNat
  | _ =>
    if cs.contains ':' then
      (colonParts cs).foldlM (fun n part => (decimal? part).map (n * 60 + ·)) 0
    else decimal? cs

def wholeOfText (s : String) : Except Problem Value :=
  match s.toList.filter (· != '_') with
  | [] => .error .emptyNumber
  | cs =>
    let (negative, digits) := splitSign cs
    if digits.isEmpty then .error .emptyNumber
    else (orImpossible (wholeMagnitude? digits)).map fun n => .int (if negative then -n else n)

/-- A sum of parts in base sixty, the last part first. -/
def sumOfSixties : (base : Nat) → (total : Binary64) → List Binary64 → Binary64
  | _, total, [] => total
  | base, total, part :: rest =>
    sumOfSixties (base * 60) (total.addSameSign (part.mulNat base)) rest

def numberMagnitude? (cs : List Char) : Option Binary64 :=
  if cs == ".inf".toList then some (.infinity false)
  else if cs == ".nan".toList then some .nan
  else if cs.contains ':' then
    ((colonParts cs).mapM Binary64.ofText?).map fun parts =>
      sumOfSixties 1 (.zero false) parts.reverse
  else Binary64.ofText? cs

def numberOfText (s : String) : Except Problem Value :=
  match (s.toList.filter (· != '_')).map Text.lowerAsciiChar with
  | [] => .error .emptyNumber
  | cs =>
    let (negative, digits) := splitSign cs
    (orImpossible (numberMagnitude? digits)).map fun x => .float (if negative then x.negate else x)

def truthOfText (s : String) : Except Problem Value :=
  match Entries.find? (Text.lower s) truthWords with
  | some b => .ok (.bool b)
  | none => .error .noTruthValue

/-- The digits at the start of a text as a number. -/
def leadingNumber (cs : List Char) : Nat × List Char :=
  (Text.asciiValue (cs.takeWhile Text.isAsciiDigit), cs.dropWhile Text.isAsciiDigit)

/-- The digits of a fraction of a second as millionths. -/
def microseconds (digits : List Char) : Nat :=
  Text.asciiValue (digits.take 6) * Nat.pow 10 (6 - min 6 digits.length)

/-- A distance from universal time in seconds; it is less than a day. -/
def zoneOf : List Char → Except Problem (Option Int)
  | [] => .ok none
  | 'Z' :: _ => .ok (some 0)
  | c :: rest =>
    let (hours, rest) := leadingNumber rest
    let (minutes, _) := leadingNumber (rest.drop 1)
    let seconds : Int := hours * 3600 + minutes * 60
    if 86400 ≤ seconds then .error .impossible
    else .ok (some (if c == '-' then -seconds else seconds))

/-- The day and perhaps the time that a text of this form spells. -/
def timeOfText (s : String) : Except Problem Value :=
  let cs := s.toList
  let dayForm := Form.all [Form.repeated Form.digit 4, Form.char '-', Form.oneOrTwoDigits,
    Form.char '-', Form.oneOrTwoDigits]
  if !(Form.time.matchesAll cs || dayForm.matchesAll cs) then .error .noTime
  else do
    let (year, rest) := leadingNumber cs
    let (month, rest) := leadingNumber (rest.drop 1)
    let (day, rest) := leadingNumber (rest.drop 1)
    let date : Day := ⟨year, month, day⟩
    if rest.isEmpty then
      if date.isValid then .ok (.date date) else .error .impossible
    else
      let (hour, rest) := leadingNumber ((rest.drop 1).dropWhile isBlank)
      let (minute, rest) := leadingNumber (rest.drop 1)
      let (second, rest) := leadingNumber (rest.drop 1)
      let fraction :=
        if rest.head? == some '.' then (rest.drop 1).takeWhile Text.isAsciiDigit else []
      let rest := if rest.head? == some '.' then rest.drop (1 + fraction.length) else rest
      let offset ← zoneOf (rest.dropWhile isBlank)
      let moment : Moment := ⟨date, hour, minute, second, microseconds fraction, offset⟩
      if moment.isValid then .ok (.moment moment) else .error .impossible

def octetsOfText (s : String) : Except Problem Value :=
  let cs := s.toList
  if cs.all (·.toNat < 128) then
    match Text.octetsOfBase64? cs with
    | some octets => .ok (.bytes octets)
    | none => .error .malformed
  else .error .malformed

/-- The value of a text of some kind. -/
def scalarValue (kind : Kind) (text : String) : Except Problem Value :=
  match kind with
  | .null => .ok .null
  | .truth => truthOfText text
  | .whole => wholeOfText text
  | .number => numberOfText text
  | .time => timeOfText text
  | .octets => octetsOfText text
  | .text => .ok (.str text)
  | _ => .error .malformed

/-! ### Structures -/

/-- A key that can be looked up. -/
def keyValue (v : Value) : Except Problem Value :=
  match v with
  | .list _ | .map _ | .set _ => .error .malformed
  | v => .ok v

def entriesOf (es : List (Value × Value)) : List (Value × Value) :=
  es.foldl (fun acc e => Value.putKey e.1 e.2 acc) []

/-- The text of a scalar, or of the scalar that a mapping stands for. -/
def scalarText? : Node → Option String
  | .scalar _ text => some text
  | .sequence .. => none
  | .mapping _ entries => ofEntries entries
where
  ofEntries : List (Node × Node) → Option String
    | [] => none
    | e :: rest => (ofEntry e).getD (ofEntries rest)
  ofEntry : Node × Node → Option (Option String)
    | (.scalar .default _, v) => some (scalarText? v)
    | _ => none

/-- Entries that are merged in, and entries of the mapping itself. -/
structure Gathered where
  merged : List (Value × Value)
  own : List (Value × Value)

mutual
/-- The value of a node. -/
def Node.value : Node → Except Problem Value
  | .scalar kind text => scalarValue kind text
  | .sequence kind items => do
    match kind with
    | .sequence => return .list (← valuesOf items)
    | .pairs => return .list (← pairsOf items)
    | _ => .error .malformed
  | .mapping kind entries => do
    let gathered ← gather entries
    let es := gathered.merged ++ gathered.own
    match kind with
    | .mapping => return .map (entriesOf es)
    | .set => return .set ((entriesOf es).map (·.1))
    | kind =>
      match scalarText? (.mapping kind entries) with
      | some text => scalarValue kind text
      | none => .error .malformed

def valuesOf : List Node → Except Problem (List Value)
  | [] => .ok []
  | n :: rest => do return (← n.value) :: (← valuesOf rest)

/-- Mappings of one entry each, as pairs. -/
def pairsOf : List Node → Except Problem (List Value)
  | [] => .ok []
  | .mapping _ [e] :: rest => do
    let (k, v) ← pairOf e
    return .pair k v :: (← pairsOf rest)
  | _ :: _ => .error .malformed

def pairOf : Node × Node → Except Problem (Value × Value)
  | (k, v) => do return (← k.value, ← v.value)

/-- The entries of a mapping, with those of the mappings that are merged into it. -/
def gather : List (Node × Node) → Except Problem Gathered
  | [] => .ok ⟨[], []⟩
  | e :: rest => do
    let first ← gatherEntry e
    let others ← gather rest
    return ⟨first.merged ++ others.merged, first.own ++ others.own⟩

def gatherEntry : Node × Node → Except Problem Gathered
  | (.scalar .merge _, .mapping _ entries) => do
    let g ← gather entries
    return ⟨g.merged ++ g.own, []⟩
  | (.scalar .merge _, .sequence _ items) => do return ⟨← mergedItems items, []⟩
  | (.scalar .merge _, _) => .error .malformed
  | (.scalar .default text, v) => do return ⟨[], [(.str text, ← v.value)]⟩
  | (k, v) => do return ⟨[], [(← keyValue (← k.value), ← v.value)]⟩

/-- Of several mappings that are merged the earlier ones count more. -/
def mergedItems : List Node → Except Problem (List (Value × Value))
  | [] => .ok []
  | .mapping _ entries :: rest => do
    let g ← gather entries
    return (← mergedItems rest) ++ g.merged ++ g.own
  | _ :: _ => .error .malformed
end

/-- The data of a text; nothing is null. -/
def read (text : String) : Except Problem Value := do
  match Node.ofTokens? (← tokens text) with
  | none => .error .malformed
  | some none => .ok .null
  | some (some node) => node.value

end EditorBlocks.Yaml
