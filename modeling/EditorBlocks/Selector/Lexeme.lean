import EditorBlocks.Text.CodePoint
import EditorBlocks.Text.Digit
import EditorBlocks.Text.Lowercase
/-!
The smallest parts of a selector text: spacing, comments, names, strings and escapes. Each is found
as the length of the longest match at the start of a text.
-/

namespace EditorBlocks.Selector

/-- The length of a line break at the start: a return and a feed make one. -/
def newlineLength : List Char → Nat
  | '\r' :: '\n' :: _ => 2
  | '\n' :: _ | '\r' :: _ | '\x0c' :: _ => 1
  | _ => 0

/-- The length of one piece of white space. -/
def whiteLength : List Char → Nat
  | ' ' :: _ | '\t' :: _ => 1
  | cs => newlineLength cs

/-- The characters up to the end of a comment whose opening has been read. -/
def commentTail? : List Char → Option (List Char)
  | [] => none
  | '*' :: '/' :: rest => some rest
  | _ :: rest => commentTail? rest

/-- What follows white space and comments, and whether there was white space among them. -/
def skipSpacing : (fuel : Nat) → List Char → Bool × List Char
  | 0, cs => (false, cs)
  | fuel + 1, cs =>
    match whiteLength cs with
    | n + 1 => (true, (skipSpacing fuel (cs.drop (n + 1))).2)
    | 0 =>
      match cs with
      | '/' :: '*' :: rest =>
        match commentTail? rest with
        | some rest => skipSpacing fuel rest
        | none => (false, cs)
      | _ => (false, cs)

/-- What follows white space and comments. -/
def afterSpacing (cs : List Char) : List Char := (skipSpacing cs.length cs).2

def isNameStart (c : Char) : Bool := c.isAlpha || c == '_' || 0xA0 ≤ c.toNat
def isNamePart (c : Char) : Bool := isNameStart c || c.isDigit || c == '-'

/-- The length of an escape after its backslash: up to six hexadecimal digits and a space, or any
character but a line break, or the end of the text. -/
def escapeLength? (cs : List Char) : Option Nat :=
  match (cs.take 6).takeWhile Text.isHexDigit with
  | [] =>
    match cs with
    | [] | ['\n'] => some 0
    | _ => if newlineLength cs == 0 then some 1 else none
  | digits => some (digits.length + whiteLength (cs.drop digits.length))

/-- The length of a run of escapes and of characters of a class. -/
def runLength (allowed : Char → Bool) : (fuel : Nat) → List Char → Nat
  | 0, _ | _, [] => 0
  | fuel + 1, '\\' :: rest =>
    match escapeLength? rest with
    | some n => 1 + n + runLength allowed fuel (rest.drop n)
    | none => 0
  | fuel + 1, c :: rest => if allowed c then 1 + runLength allowed fuel rest else 0

/-- The length of a name. It begins with a letter, after at most one dash, or with two dashes. -/
def nameLength? (cs : List Char) : Option Nat :=
  let dash := if cs.head? == some '-' then 1 else 0
  let body := cs.drop dash
  match runLength isNameStart body.length body with
  | 0 => if cs.take 2 == ['-', '-'] then some (2 + partsLength (cs.drop 2)) else none
  | n => some (dash + n + partsLength (body.drop n))
where
  partsLength (cs : List Char) : Nat := runLength isNamePart cs.length cs

/-- The characters from the inside of a string to its closing quote. -/
def stringLength? (quote : Char) : (fuel : Nat) → List Char → Option Nat
  | 0, _ | _, [] => none
  | fuel + 1, c :: rest =>
    if c == quote then some 1
    else if c == '\\' then
      let n := max 1 (newlineLength rest)
      if rest.isEmpty then none
      else (stringLength? quote fuel (rest.drop n)).map (· + 1 + n)
    else if newlineLength (c :: rest) != 0 then none
    else (stringLength? quote fuel rest).map (· + 1)

/-- The length of a value: a string or a name. -/
def valueLength? (cs : List Char) : Option Nat :=
  match cs with
  | '"' :: rest => (stringLength? '"' rest.length rest).map (· + 1)
  | '\'' :: rest => (stringLength? '\'' rest.length rest).map (· + 1)
  | _ => nameLength? cs

/-- The character that an escape by number stands for; zero stands for none. -/
def escapedCharacter (code : Nat) : Char := if code = 0 then '\uFFFD' else Text.codePoint code

/-- Replaces escapes by the characters they stand for; in a string an escaped line break stands for
nothing. -/
def unescapeFrom (inString : Bool) : (fuel : Nat) → List Char → List Char
  | 0, cs => cs
  | _, [] => []
  | fuel + 1, '\\' :: rest =>
    match (rest.take 6).takeWhile Text.isHexDigit with
    | [] =>
      match newlineLength rest, rest with
      | _, [] => ['\uFFFD']
      | 0, c :: rest => c :: unescapeFrom inString fuel rest
      | n, rest =>
        if inString then unescapeFrom inString fuel (rest.drop n)
        else (if rest == ['\n'] then '\uFFFD' else '\\') :: unescapeFrom inString fuel rest
    | digits =>
      let after := rest.drop digits.length
      escapedCharacter (Text.hexNumber digits)
        :: unescapeFrom inString fuel (after.drop (whiteLength after))
  | fuel + 1, c :: rest => c :: unescapeFrom inString fuel rest

/-- The name that an escaped text stands for. -/
def unescapeName (cs : List Char) : String := String.ofList (unescapeFrom false cs.length cs)

/-- The text that a value stands for, quotes removed. -/
def unescapeValue (cs : List Char) : String :=
  match cs with
  | '"' :: rest | '\'' :: rest => String.ofList (unescapeFrom true rest.length rest.dropLast)
  | _ => unescapeName cs

end EditorBlocks.Selector
