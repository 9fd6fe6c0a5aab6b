import EditorBlocks.Data.Entries
import EditorBlocks.Data.Value
import EditorBlocks.Text.CodePoint
import EditorBlocks.Text.Digit
/-!
Reading JSON text. Besides the standard grammar the three names `NaN`, `Infinity` and `-Infinity`
are numbers. A text that is refused comes with the problem and its character offset.
-/

namespace EditorBlocks.Json

/-- What is wrong with a JSON text. -/
inductive Problem
  | byteOrderMark
  | expectedValue
  | expectedName
  | expectedColon
  | expectedComma
  | unterminatedString
  | controlCharacter
  | badEscape
  | badUnicodeEscape
  | extraData
  deriving DecidableEq, Repr

def Problem.message : Problem → String
  | byteOrderMark => "Unexpected UTF-8 BOM (decode using utf-8-sig)"
  | expectedValue => "Expecting value"
  | expectedName => "Expecting property name enclosed in double quotes"
  | expectedColon => "Expecting ':' delimiter"
  | expectedComma => "Expecting ',' delimiter"
  | unterminatedString => "Unterminated string starting at"
  | controlCharacter => "Invalid control character at"
  | badEscape => "Invalid \\escape"
  | badUnicodeEscape => "Invalid \\uXXXX escape"
  | extraData => "Extra data"

/-- Why a text is refused: it is not JSON, or it has a whole number with too many digits. A text
with an escape of half a pair is JSON, but its strings are not made of characters. -/
inductive ReadError
  | malformed (problem : Problem) (position : Nat)
  | tooManyDigits
  | loneSurrogate
  deriving DecidableEq, Repr

/-- What is left to read, and its offset in the text. -/
structure Rest where
  chars : List Char
  position : Nat

def Rest.advance (r : Rest) (n : Nat) : Rest := ⟨r.chars.drop n, r.position + n⟩

def isSpace (c : Char) : Bool := c == ' ' || c == '\t' || c == '\n' || c == '\r'

def Rest.skipSpace (r : Rest) : Rest :=
  r.advance (r.chars.takeWhile isSpace).length

abbrev Reading (α : Type) := Except ReadError α

def fail {α : Type} (problem : Problem) (position : Nat) : Reading α :=
  .error (.malformed problem position)

def simpleEscape? : Char → Option Char
  | '"' => some '"'
  | '\\' => some '\\'
  | '/' => some '/'
  | 'b' => some '\x08'
  | 'f' => some '\x0c'
  | 'n' => some '\n'
  | 'r' => some '\r'
  | 't' => some '\t'
  | _ => none

def isHighSurrogate (n : Nat) : Bool := 0xD800 ≤ n && n ≤ 0xDBFF
def isLowSurrogate (n : Nat) : Bool := 0xDC00 ≤ n && n ≤ 0xDFFF

/-- The rest of a string whose opening quote stands at `start`; `chunk` is read so far, last
character first. -/
def readString (start : Nat) : (fuel : Nat) → Rest → (chunk : List Char) → Reading (String × Rest)
  | 0, _, _ => fail .unterminatedString start
  | fuel + 1, ⟨chars, position⟩, chunk =>
    match chars with
    | [] => fail .unterminatedString start
    | '"' :: rest => .ok (String.ofList chunk.reverse, ⟨rest, position + 1⟩)
    | '\\' :: [] => fail .unterminatedString start
    | '\\' :: 'u' :: rest =>
      -- an escape needs a character after it, at least the closing quote
      if rest.length < 5 then fail .badUnicodeEscape (position + 1)
      else
        match Text.hexPrefix? 4 rest with
        | none => fail .badUnicodeEscape (position + 1)
        | some high =>
          let after := rest.drop 4
          let single :=
            if Text.isSurrogate high then .error .loneSurrogate
            else readString start fuel ⟨after, position + 6⟩ (Text.codePoint high :: chunk)
          if isHighSurrogate high && 6 < after.length && after.take 2 == ['\\', 'u'] then
            match Text.hexPrefix? 4 (after.drop 2) with
            | none => fail .badUnicodeEscape (position + 7)
            | some low =>
              if isLowSurrogate low then
                let joined := 0x10000 + (high - 0xD800) * 0x400 + (low - 0xDC00)
                readString start fuel ⟨after.drop 6, position + 12⟩ (Text.codePoint joined :: chunk)
              else single
          else single
    | '\\' :: c :: rest =>
      match simpleEscape? c with
      | some plain => readString start fuel ⟨rest, position + 2⟩ (plain :: chunk)
      | none => fail .badEscape position
    | c :: rest =>
      if c.toNat < 32 then fail .controlCharacter position
      else readString start fuel ⟨rest, position + 1⟩ (c :: chunk)

/-- The digits of a whole part: a zero alone, or digits that do not begin with one. -/
def wholePart : List Char → List Char
  | '0' :: _ => ['0']
  | cs => cs.takeWhile Text.isAsciiDigit

/-- A point and at least one digit. -/
def fractionPart : List Char → List Char
  | '.' :: rest =>
    let digits := rest.takeWhile Text.isAsciiDigit
    if digits.isEmpty then [] else '.' :: digits
  | _ => []

/-- A letter e, an optional sign and at least one digit. -/
def exponentPart : List Char → List Char
  | e :: rest =>
    if e == 'e' || e == 'E' then
      let sign := match rest with
        | '+' :: _ => ['+']
        | '-' :: _ => ['-']
        | _ => []
      let digits := (rest.drop sign.length).takeWhile Text.isAsciiDigit
      if digits.isEmpty then [] else e :: (sign ++ digits)
    else []
  | [] => []

def exponentValue : List Char → Int
  | _ :: '-' :: digits => -(Text.asciiValue digits : Int)
  | _ :: '+' :: digits => Text.asciiValue digits
  | _ :: digits => Text.asciiValue digits
  | [] => 0

/-- A number: whole when it has neither fraction nor exponent. -/
def readNumber (r : Rest) : Reading (Value × Rest) :=
  let negative := r.chars.head? == some '-'
  let body := if negative then r.chars.drop 1 else r.chars
  let whole := wholePart body
  let fraction := fractionPart (body.drop whole.length)
  let exponent := exponentPart (body.drop (whole.length + fraction.length))
  let rest := r.advance
    ((if negative then 1 else 0) + whole.length + fraction.length + exponent.length)
  if whole.isEmpty then fail .expectedValue r.position
  else if fraction.isEmpty && exponent.isEmpty then
    if Text.digitLimit < whole.length then .error .tooManyDigits
    else
      let n : Int := Text.asciiValue whole
      .ok (.int (if negative then -n else n), rest)
  else
    let digits := Text.asciiValue (whole ++ fraction.drop 1)
    let power := exponentValue exponent - (fraction.drop 1).length
    .ok (.float (Binary64.ofDecimal negative digits power), rest)

/-- The names of JSON and of the numbers that have no digits. -/
def words : List (String × Value) := [
  ("null", .null), ("true", .bool true), ("false", .bool false), ("NaN", .float .nan),
  ("Infinity", .float (.infinity false)), ("-Infinity", .float (.infinity true))]

def readWord? (r : Rest) : Option (Value × Rest) :=
  (words.find? fun w => w.1.toList.isPrefixOf r.chars).map fun w => (w.2, r.advance w.1.length)

mutual
/-- One value. -/
def readValue : (fuel : Nat) → Rest → Reading (Value × Rest)
  | 0, r => fail .expectedValue r.position
  | fuel + 1, r =>
    match r.chars with
    | '"' :: rest => do
      let (s, r) ← readString r.position (rest.length + 1) ⟨rest, r.position + 1⟩ []
      return (.str s, r)
    | '[' :: _ =>
      let inside := (r.advance 1).skipSpace
      if inside.chars.head? == some ']' then .ok (.list [], inside.advance 1)
      else readItems fuel inside []
    | '\x7b' :: _ =>
      let inside := (r.advance 1).skipSpace
      if inside.chars.head? == some '\x7d' then .ok (.map [], inside.advance 1)
      else readMembers fuel inside []
    | _ =>
      match readWord? r with
      | some found => .ok found
      | none => readNumber r

/-- The items of a list from one of them on; `items` are read so far, last first. -/
def readItems : (fuel : Nat) → Rest → (items : List Value) → Reading (Value × Rest)
  | 0, r, _ => fail .expectedValue r.position
  | fuel + 1, r, items => do
    let (item, r) ← readValue fuel r
    let r := r.skipSpace
    match r.chars with
    | ']' :: _ => return (.list (item :: items).reverse, r.advance 1)
    | ',' :: _ => readItems fuel (r.advance 1).skipSpace (item :: items)
    | _ => fail .expectedComma r.position

/-- The members of an object from one of them on; of members with one name the last counts. -/
def readMembers : (fuel : Nat) → Rest → (members : List (String × Value)) → Reading (Value × Rest)
  | 0, r, _ => fail .expectedName r.position
  | fuel + 1, r, members =>
    match r.chars with
    | '"' :: rest => do
      let (name, r) ← readString r.position (rest.length + 1) ⟨rest, r.position + 1⟩ []
      let r := r.skipSpace
      if r.chars.head? != some ':' then fail .expectedColon r.position
      let (value, r) ← readValue fuel (r.advance 1).skipSpace
      let members := Entries.put name value members
      let r := r.skipSpace
      match r.chars with
      | '\x7d' :: _ => return (.object members, r.advance 1)
      | ',' :: _ => readMembers fuel (r.advance 1).skipSpace members
      | _ => fail .expectedComma r.position
    | _ => fail .expectedName r.position
end

/-- Reads a whole text as one value. Each step of the reader takes at least one character, so the
length bounds its depth. -/
def read (text : String) : Reading Value :=
  let chars := text.toList
  if chars.head? == some '\uFEFF' then fail .byteOrderMark 0
  else do
    let (value, rest) ← readValue (2 * chars.length + 2) (Rest.mk chars 0).skipSpace
    let rest := rest.skipSpace
    if rest.chars.isEmpty then return value else fail .extraData rest.position

end EditorBlocks.Json
