/-!
Cursors: what is left of a YAML text, with the place that has been reached.
-/

namespace EditorBlocks.Yaml

structure Cursor where
  rest : List Char
  position : Nat
  line : Nat
  column : Nat

def isBreak (c : Char) : Bool :=
  c == '\n' || c == '\r' || c == '\x85' || c == '\u2028' || c == '\u2029'

def isBlank (c : Char) : Bool := c == ' ' || c == '\t'

def endsWord (c : Option Char) : Bool := c.all fun c => isBlank c || isBreak c

/-- The same without tabs, which only some words may end with. -/
def endsToken (c : Option Char) : Bool := c.all fun c => c == ' ' || isBreak c

namespace Cursor

def start (text : List Char) : Cursor := ⟨text, 0, 0, 0⟩

def peek (c : Cursor) : Option Char := c.rest.head?

def peekAt (c : Cursor) (n : Nat) : Option Char := c.rest[n]?

/-- One character further. A byte order mark takes no column. -/
def step (c : Cursor) : Cursor :=
  match c.rest with
  | [] => c
  | x :: rest =>
    if isBreak x && !(x == '\r' && rest.head? == some '\n') then
      ⟨rest, c.position + 1, c.line + 1, 0⟩
    else ⟨rest, c.position + 1, c.line, if x == '\uFEFF' then c.column else c.column + 1⟩

def advance : (n : Nat) → Cursor → Cursor
  | 0, c => c
  | n + 1, c => advance n c.step

/-- The characters of a class at the cursor, and what follows them. -/
def span (p : Char → Bool) (c : Cursor) : List Char × Cursor :=
  let taken := c.rest.takeWhile p
  (taken, c.advance taken.length)

def skip (p : Char → Bool) (c : Cursor) : Cursor := (c.span p).2

def skipSpaces (c : Cursor) : Cursor := c.skip (· == ' ')

/-- A comment and the rest of its line, without the break. -/
def skipComment (c : Cursor) : Cursor :=
  if c.peek == some '#' then c.skip fun x => !isBreak x else c

/-- A line break, as the character that it counts for. -/
def lineBreak? (c : Cursor) : Option (Char × Cursor) :=
  match c.rest with
  | '\r' :: '\n' :: _ => some ('\n', c.advance 2)
  | '\u2028' :: _ => some ('\u2028', c.step)
  | '\u2029' :: _ => some ('\u2029', c.step)
  | x :: _ => if isBreak x then some ('\n', c.step) else none
  | [] => none

/-- Three hyphens or three dots that stand alone, which separate documents. -/
def atSeparator (c : Cursor) : Bool :=
  (c.rest.take 3 == ['-', '-', '-'] || c.rest.take 3 == ['.', '.', '.']) && endsWord (c.peekAt 3)

end Cursor
end EditorBlocks.Yaml
