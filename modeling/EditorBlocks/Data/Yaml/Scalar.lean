import EditorBlocks.Data.Yaml.Cursor
import EditorBlocks.Text.CodePoint
import EditorBlocks.Text.Digit
/-!
The texts of scalars: plain ones, those in quotes and those in blocks of lines. Line breaks inside
plain and quoted scalars are folded.
-/

namespace EditorBlocks.Yaml

/-- Why a text has no value. Besides faults of the text itself there are scalars that ask for a
value that does not exist. -/
inductive Problem
  | malformed
  /-- a number, a character or a day that does not exist -/
  | impossible
  /-- text that is tagged as a truth value but names none -/
  | noTruthValue
  /-- empty text that is tagged as a number -/
  | emptyNumber
  /-- text that is tagged as a time but is none -/
  | noTime
  /-- an escape of half a pair, which is no character -/
  | loneSurrogate
  deriving DecidableEq, Repr

/-- A step of reading from a cursor. -/
abbrev Lexing := Except Problem

/-- What a run of line breaks counts for in folded text: one break is a space, more are kept but for
the first. -/
def folded (first : Char) (more : List Char) : List Char :=
  if first != '\n' then first :: more else if more.isEmpty then [' '] else more

/-! ### Plain scalars -/

def flowIndicators : List Char := [',', '[', ']', '\x7b', '\x7d']

/-- Where a plain scalar ends or pauses. -/
def plainStops (inFlow : Bool) : List Char → Bool
  | [] => true
  | c :: rest =>
    endsWord (some c) || (inFlow && (c == '?' || flowIndicators.contains c))
      || (c == ':' && (endsWord rest.head? || (inFlow && rest.head?.any flowIndicators.contains)))

def plainPiece (inFlow : Bool) : List Char → List Char
  | [] => []
  | c :: rest => if plainStops inFlow (c :: rest) then [] else c :: plainPiece inFlow rest

/-- Empty lines and the indentation of the next one; nothing if a document separator comes. -/
def plainBreaks : (fuel : Nat) → Cursor → Option (List Char) × Cursor
  | 0, c => (some [], c)
  | fuel + 1, c =>
    match c.skipSpaces.lineBreak? with
    | none => (some [], c.skipSpaces)
    | some (x, next) =>
      if next.atSeparator then (none, next)
      else
        let (more, next) := plainBreaks fuel next
        (more.map (x :: ·), next)

/-- The spacing after a piece of a plain scalar, and whether it holds a line break. -/
def plainSpacing (c : Cursor) : (List Char × Bool) × Cursor :=
  let (spaces, next) := c.span (· == ' ')
  match next.lineBreak? with
  | none => ((spaces, false), next)
  | some (first, next) =>
    if next.atSeparator then (([], true), next)
    else
      match plainBreaks next.rest.length next with
      | (some more, next) => ((folded first more, true), next)
      | (none, next) => (([], true), next)

/-- A plain scalar from one of its pieces on; `text` and then `spacing` come before. The flag says
that a line break has been passed at the end. -/
def plainFrom (inFlow : Bool) (indent : Int) :
    (fuel : Nat) → (text spacing : List Char) → Bool → Cursor → (List Char × Bool) × Cursor
  | 0, text, _, broken, c => ((text, broken), c)
  | fuel + 1, text, spacing, broken, c =>
    let piece := plainPiece inFlow c.rest
    if c.peek == some '#' || piece.isEmpty then ((text, broken), c)
    else
      let text := text ++ spacing ++ piece
      let ((spacing, broken), next) := plainSpacing (c.advance piece.length)
      if spacing.isEmpty || next.peek == some '#' || (!inFlow && next.column < indent + 1) then
        ((text, broken), next)
      else plainFrom inFlow indent fuel text spacing broken next

/-- A plain scalar in a structure of this indentation. -/
def plainScalar (inFlow : Bool) (indent : Int) (c : Cursor) : (List Char × Bool) × Cursor :=
  plainFrom inFlow indent (c.rest.length + 1) [] [] false c

/-! ### Quoted scalars -/

/-- Empty lines inside a quoted scalar, up to the next character that counts. -/
def quotedBreaks : (fuel : Nat) → Cursor → Lexing (List Char × Cursor)
  | 0, _ => .error .malformed
  | fuel + 1, c =>
    if c.atSeparator then .error .malformed
    else
      match (c.skip isBlank).lineBreak? with
      | none => .ok ([], c.skip isBlank)
      | some (x, next) => do
        let (more, next) ← quotedBreaks fuel next
        .ok (x :: more, next)

/-- Blanks inside a quoted scalar: kept inside a line, folded at its end. -/
def quotedSpacing (c : Cursor) : Lexing (List Char × Cursor) :=
  let (blanks, next) := c.span isBlank
  match next.lineBreak? with
  | some (first, next) => do
    let (more, next) ← quotedBreaks (next.rest.length + 1) next
    .ok (folded first more, next)
  | none => if next.rest.isEmpty then .error .malformed else .ok (blanks, next)

def escapedChar? : Char → Option Char
  | '0' => some '\x00'
  | 'a' => some '\x07'
  | 'b' => some '\x08'
  | 't' | '\t' => some '\t'
  | 'n' => some '\n'
  | 'v' => some '\x0b'
  | 'f' => some '\x0c'
  | 'r' => some '\r'
  | 'e' => some '\x1b'
  | ' ' => some ' '
  | '"' => some '"'
  | '\\' => some '\\'
  | '/' => some '/'
  | 'N' => some '\x85'
  | '_' => some '\xa0'
  | 'L' => some '\u2028'
  | 'P' => some '\u2029'
  | _ => none

/-- How many hexadecimal digits an escape has. -/
def escapeDigits? : Char → Option Nat
  | 'x' => some 2
  | 'u' => some 4
  | 'U' => some 8
  | _ => none

/-- An escape after its backslash. -/
def escape (c : Cursor) : Lexing (List Char × Cursor) :=
  match c.peek with
  | none => .error .malformed
  | some x =>
    match escapedChar? x, escapeDigits? x with
    | some plain, _ => .ok ([plain], c.step)
    | none, some width =>
      match Text.hexPrefix? width c.step.rest with
      | none => .error .malformed
      | some code =>
        if 0x10FFFF < code then .error .impossible
        else if Text.isSurrogate code then .error .loneSurrogate
        else .ok ([Text.codePoint code], c.step.advance width)
    | none, none =>
      match c.lineBreak? with
      | some (_, next) => quotedBreaks (next.rest.length + 1) next
      | none => .error .malformed

/-- The rest of a quoted scalar, up to and with the closing quote. -/
def quotedFrom (double : Bool) :
    (fuel : Nat) → (text : List Char) → Cursor → Lexing (List Char × Cursor)
  | 0, _, _ => .error .malformed
  | fuel + 1, text, c =>
    match c.rest with
    | [] => .error .malformed
    | '\'' :: '\'' :: _ =>
      if double then quotedFrom double fuel (text ++ ['\'']) c.step
      else quotedFrom double fuel (text ++ ['\'']) (c.advance 2)
    | x :: _ =>
      if x == (if double then '"' else '\'') then .ok (text, c.step)
      else if double && x == '\\' then do
        let (piece, next) ← escape c.step
        quotedFrom double fuel (text ++ piece) next
      else if endsWord (some x) then do
        let (piece, next) ← quotedSpacing c
        quotedFrom double fuel (text ++ piece) next
      else quotedFrom double fuel (text ++ [x]) c.step

/-- A quoted scalar from its opening quote on. -/
def quotedScalar (double : Bool) (c : Cursor) : Lexing (List Char × Cursor) :=
  quotedFrom double (c.rest.length + 1) [] c.step

/-! ### Block scalars -/

/-- What becomes of the line breaks at the end of a block scalar. -/
inductive Chomping
  | strip
  | clip
  | keep
  deriving DecidableEq

def chomping? : Option Char → Option Chomping
  | some '+' => some .keep
  | some '-' => some .strip
  | _ => none

/-- The indentation that a header gives; it is not zero. -/
def indentDigit (c : Cursor) : Lexing (Option Nat × Cursor) :=
  match c.peek with
  | some '0' => .error .malformed
  | some x => if Text.isAsciiDigit x then .ok (some (x.toNat - 48), c.step) else .ok (none, c)
  | none => .ok (none, c)

/-- The header of a block scalar, with the rest of its line. -/
def blockHeader (c : Cursor) : Lexing ((Chomping × Option Nat) × Cursor) := do
  let ((chomping, indent), c) ← match chomping? c.peek with
    | some chomping => do
      let (indent, c) ← indentDigit c.step
      Except.ok ((chomping, indent), c)
    | none => do
      let (indent, c) ← indentDigit c
      match indent, chomping? c.peek with
      | some _, some chomping => .ok ((chomping, indent), c.step)
      | _, _ => .ok ((Chomping.clip, indent), c)
  if !endsToken c.peek then .error .malformed
  else
    let c := c.skipSpaces.skipComment
    match c.lineBreak? with
    | some (_, next) => .ok ((chomping, indent), next)
    | none => if c.rest.isEmpty then .ok ((chomping, indent), c) else .error .malformed

/-- Up to so many columns of indentation. -/
def skipIndent (indent : Nat) : (fuel : Nat) → Cursor → Cursor
  | 0, c => c
  | fuel + 1, c =>
    if c.column < indent && c.peek == some ' ' then skipIndent indent fuel c.step else c

/-- Empty lines of a block scalar, and the indentation of the line after them. -/
def blockBreaks (indent : Nat) : (fuel : Nat) → Cursor → List Char × Cursor
  | 0, c => ([], c)
  | fuel + 1, c =>
    let c := skipIndent indent indent c
    match c.lineBreak? with
    | none => ([], c)
    | some (x, next) =>
      let (more, next) := blockBreaks indent fuel next
      (x :: more, next)

/-- Empty lines before the first line of a block scalar, and the largest column among them and that
line's indentation. -/
def leadingBreaks : (fuel : Nat) → (widest : Nat) → Cursor → (List Char × Nat) × Cursor
  | 0, widest, c => (([], widest), c)
  | fuel + 1, widest, c =>
    let c := c.skipSpaces
    let widest := max widest c.column
    match c.lineBreak? with
    | none => (([], widest), c)
    | some (x, next) =>
      let ((more, widest), next) := leadingBreaks fuel widest next
      ((x :: more, widest), next)

/-- The lines of a block scalar. `breaks` are the empty lines before; given back are the text, the
break of the last line, the empty lines after it and the place reached. -/
def blockLines (foldsLines : Bool) (indent : Nat) :
    (fuel : Nat) → (text lastBreak breaks : List Char) → Cursor →
      (List Char × List Char × List Char) × Cursor
  | 0, text, lastBreak, breaks, c => ((text, lastBreak, breaks), c)
  | fuel + 1, text, lastBreak, breaks, c =>
    if c.column != indent || c.rest.isEmpty then ((text, lastBreak, breaks), c)
    else
      let indented := c.peek.any isBlank
      let (line, next) := c.span fun x => !isBreak x
      let text := text ++ breaks ++ line
      let (lastBreak, next) := match next.lineBreak? with
        | some (x, next) => ([x], next)
        | none => ([], next)
      let (breaks, next) := blockBreaks indent (next.rest.length + 1) next
      if next.column == indent && !next.rest.isEmpty then
        let joint :=
          if foldsLines && lastBreak == ['\n'] && !indented && !next.peek.any isBlank then
            (if breaks.isEmpty then [' '] else [])
          else lastBreak
        blockLines foldsLines indent fuel (text ++ joint) lastBreak breaks next
      else ((text, lastBreak, breaks), next)

/-- A block scalar from its indicator on, in a structure of this indentation. -/
def blockScalar (foldsLines : Bool) (parent : Int) (c : Cursor) : Lexing (List Char × Cursor) := do
  let ((chomping, given), c) ← blockHeader c.step
  let least := (max 1 (parent + 1)).toNat
  let fuel := c.rest.length + 1
  let ((breaks, indent), c) := match given with
    | some width =>
      let indent := least + width - 1
      let (breaks, c) := blockBreaks indent fuel c
      ((breaks, indent), c)
    | none =>
      let ((breaks, widest), c) := leadingBreaks fuel 0 c
      ((breaks, max least widest), c)
  let ((text, lastBreak, breaks), c) := blockLines foldsLines indent fuel [] [] breaks c
  let ending := match chomping with
    | .strip => []
    | .clip => lastBreak
    | .keep => lastBreak ++ breaks
  .ok (text ++ ending, c)

end EditorBlocks.Yaml
