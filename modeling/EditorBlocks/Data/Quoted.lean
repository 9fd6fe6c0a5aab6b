import EditorBlocks.Data.Calendar
import EditorBlocks.Text.Quoted
/-!
Data as messages quote it.
-/

namespace EditorBlocks

def Moment.quoted (m : Moment) : String :=
  let fields := [m.day.year, m.day.month, m.day.day, m.hour, m.minute]
    ++ (if m.second = 0 && m.microsecond = 0 then [] else [m.second])
    ++ (if m.microsecond = 0 then [] else [m.microsecond])
  let zone := match m.offset with
    | none => ""
    | some 0 => ", tzinfo=datetime.timezone.utc"
    | some seconds =>
      let inDay := (seconds % 86400).toNat
      let days := seconds / 86400
      ", tzinfo=datetime.timezone(datetime.timedelta("
        ++ (if days = 0 then "" else "days=" ++ toString days ++ ", ")
        ++ "seconds=" ++ toString inDay ++ "))"
  "datetime.datetime(" ++ String.intercalate ", " (fields.map toString) ++ zone ++ ")"

namespace Value

def quotedOctet (n : Nat) : String :=
  if n = 92 then "\\\\"
  else if n = 9 then "\\t"
  else if n = 10 then "\\n"
  else if n = 13 then "\\r"
  else if n < 32 || 127 ≤ n then "\\x" ++ String.ofList (Text.hexDigits 2 n)
  else (Char.ofNat n).toString

def quotedOctets (octets : List Nat) : String :=
  let quote := if octets.contains 39 && !octets.contains 34 then "\"" else "'"
  let escaped := octets.map fun n => if n = 39 && quote == "'" then "\\'" else quotedOctet n
  "b" ++ quote ++ String.join escaped ++ quote

mutual
/-- The text that stands for a value in a message. -/
def quoted : Value → String
  | null => "None"
  | bool b => if b then "True" else "False"
  | int n => toString n
  | float x => x.toText
  | str s => Text.quoted s
  | list items => "[" ++ String.intercalate ", " (quotedItems items) ++ "]"
  | map entries => "\x7b" ++ String.intercalate ", " (quotedEntries entries) ++ "\x7d"
  | date d =>
    "datetime.date(" ++ String.intercalate ", " ([d.year, d.month, d.day].map toString) ++ ")"
  | moment m => m.quoted
  | bytes octets => quotedOctets octets
  | set [] => "set()"
  | set (m :: ms) => "\x7b" ++ String.intercalate ", " (quoted m :: quotedItems ms) ++ "\x7d"
  | pair a b => "(" ++ quoted a ++ ", " ++ quoted b ++ ")"

def quotedItems : List Value → List String
  | [] => []
  | v :: rest => quoted v :: quotedItems rest

def quotedEntry : Value × Value → String
  | (k, v) => quoted k ++ ": " ++ quoted v

def quotedEntries : List (Value × Value) → List String
  | [] => []
  | e :: rest => quotedEntry e :: quotedEntries rest
end

end Value
end EditorBlocks
