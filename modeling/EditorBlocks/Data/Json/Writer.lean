import EditorBlocks.Data.Value
import EditorBlocks.Text.Digit
import EditorBlocks.Text.Quoted
/-!
Writing JSON text: what is escaped, how values nest, and which data has no JSON form.
-/

namespace EditorBlocks.Json

/-- Why data cannot be written: JSON has no form for it, or it has a whole number with too many
digits. -/
inductive Unwritable
  | noForm
  | tooManyDigits
  deriving DecidableEq, Repr

/-- Which characters a string may hold as they are. -/
inductive Charset
  | ascii
  | unicode
  deriving DecidableEq, Repr

/-- An escape of one UTF-16 unit. -/
def unitEscape (n : Nat) : List Char := '\\' :: 'u' :: Text.hexDigits 4 n

def escapedChar (charset : Charset) (c : Char) : List Char :=
  let n := c.toNat
  if c == '"' then ['\\', '"']
  else if c == '\\' then ['\\', '\\']
  else if c == '\n' then ['\\', 'n']
  else if c == '\r' then ['\\', 'r']
  else if c == '\t' then ['\\', 't']
  else if c == '\x0c' then ['\\', 'f']
  else if c == '\x08' then ['\\', 'b']
  else if n < 32 then unitEscape n
  else if charset == .unicode || n < 127 then [c]
  else if n < 0x10000 then unitEscape n
  else unitEscape (0xD800 + (n - 0x10000) / 0x400) ++ unitEscape (0xDC00 + (n - 0x10000) % 0x400)

/-- A string with its quotes. -/
def stringChars (charset : Charset) (s : String) : List Char :=
  '"' :: (s.toList.flatMap (escapedChar charset) ++ ['"'])

def floatText : Binary64 → String
  | .nan => "NaN"
  | .infinity negative => if negative then "-Infinity" else "Infinity"
  | x => x.toText

/-- How values are laid out: the characters of strings, and the spaces of one level when every
item has a line of its own. -/
structure Layout where
  charset : Charset
  indent : Option Nat
  deriving DecidableEq, Repr

/-- The break before an item at this depth. -/
def Layout.lineBreak (layout : Layout) (depth : Nat) : List Char :=
  match layout.indent with
  | some width => '\n' :: List.replicate (width * depth) ' '
  | none => []

/-- Between two items: a comma, and a break or a space. -/
def Layout.comma (layout : Layout) (depth : Nat) : List Char :=
  match layout.indent with
  | some _ => ',' :: layout.lineBreak depth
  | none => [',', ' ']

/-- The digits of a whole number, with its sign. -/
def wholeText (n : Int) : Except Unwritable String :=
  match Text.intText? n with
  | some text => .ok text
  | none => .error .tooManyDigits

/-- A key as the name of a member; only scalars of JSON have a name. -/
def keyName : Value → Except Unwritable String
  | .str s => .ok s
  | .float x => .ok (floatText x)
  | .bool b => .ok (if b then "true" else "false")
  | .null => .ok "null"
  | .int n => wholeText n
  | _ => .error .noForm

mutual
/-- The text of a value at a depth. The first part that has no JSON form decides the error. -/
def valueChars (layout : Layout) (depth : Nat) : Value → Except Unwritable (List Char)
  | .null => .ok "null".toList
  | .bool b => .ok (if b then "true" else "false").toList
  | .int n => (wholeText n).map (·.toList)
  | .float x => .ok (floatText x).toList
  | .str s => .ok (stringChars layout.charset s)
  | .list [] => .ok ['[', ']']
  | .list (item :: items) => do
    let first ← valueChars layout (depth + 1) item
    let others ← itemsChars layout (depth + 1) items
    return '[' :: (layout.lineBreak (depth + 1) ++ first ++ others
      ++ layout.lineBreak depth ++ [']'])
  | .map [] => .ok ['\x7b', '\x7d']
  | .map (entry :: entries) => do
    let first ← entryChars layout (depth + 1) entry
    let others ← entriesChars layout (depth + 1) entries
    return '\x7b' :: (layout.lineBreak (depth + 1) ++ first ++ others ++ layout.lineBreak depth
      ++ ['\x7d'])
  | .date _ | .moment _ | .bytes _ | .set _ => .error .noForm
  | .pair first second => do
    let a ← valueChars layout (depth + 1) first
    let b ← valueChars layout (depth + 1) second
    return '[' :: (layout.lineBreak (depth + 1) ++ a ++ layout.comma (depth + 1) ++ b
      ++ layout.lineBreak depth ++ [']'])

/-- Items with a comma before each. -/
def itemsChars (layout : Layout) (depth : Nat) : List Value → Except Unwritable (List Char)
  | [] => .ok []
  | item :: items => do
    let first ← valueChars layout depth item
    let others ← itemsChars layout depth items
    return layout.comma depth ++ first ++ others

/-- A name and its value. -/
def entryChars (layout : Layout) (depth : Nat) : Value × Value → Except Unwritable (List Char)
  | (key, value) => do
    let name ← keyName key
    let text ← valueChars layout depth value
    return stringChars layout.charset name ++ ':' :: ' ' :: text

/-- Members with a comma before each. -/
def entriesChars (layout : Layout) (depth : Nat) :
    List (Value × Value) → Except Unwritable (List Char)
  | [] => .ok []
  | entry :: entries => do
    let first ← entryChars layout depth entry
    let others ← entriesChars layout depth entries
    return layout.comma depth ++ first ++ others
end

/-- The text of a value, if it has one. -/
def write (layout : Layout) (value : Value) : Except Unwritable String :=
  (valueChars layout 0 value).map String.ofList

end EditorBlocks.Json
