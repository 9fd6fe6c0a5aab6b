import EditorBlocks.Selector.Token
import EditorBlocks.Text.Quoted
/-!
Errors in selector texts. An error names the flaw and its place; the message shows the text with a
mark below the place.
-/

namespace EditorBlocks

namespace Selector

def Combinator.sign : Combinator → String
  | comma => ","
  | descendant => " "
  | child => ">"
  | adjacent => "+"
  | sibling => "~"

/-- What is wrong with a text that is no list of selectors. -/
inductive Flaw
  | brokenAttribute
  | brokenClass
  | brokenId
  | brokenPseudoClass
  | unexpected (c : Char)
  | tagInside
  | loneCombinator (combinator : Combinator)
  | repeatedCombinator
  | noSelector
  | strayClose
  | unclosed
  | unknownClass (name : String)
  | misusedClass (name : String)
  | undefinedClass (name : String)
  deriving DecidableEq, Repr

namespace Flaw

/-- The flaw of a place where no token begins. -/
def ofCharacter : Char → Flaw
  | '[' => brokenAttribute
  | '.' => brokenClass
  | '#' => brokenId
  | ':' => brokenPseudoClass
  | c => unexpected c

def describe (position : Nat) : Flaw → String
  | brokenAttribute => "Malformed attribute selector at position " ++ toString position
  | brokenClass => "Malformed class selector at position " ++ toString position
  | brokenId => "Malformed id selector at position " ++ toString position
  | brokenPseudoClass => "Malformed pseudo-class selector at position " ++ toString position
  | unexpected c =>
    "Invalid character " ++ Text.quoted c.toString ++ " position " ++ toString position
  | tagInside =>
    "Tag name found at position " ++ toString position ++ " instead of at the start"
  | loneCombinator c =>
    "The combinator '" ++ c.sign ++ "' at position " ++ toString position
      ++ ", must have a selector before it"
  | repeatedCombinator => "The multiple combinators at position " ++ toString position
  | noSelector => "Expected a selector at position " ++ toString position
  | strayClose => "Unmatched pseudo-class close at position " ++ toString position
  | unclosed => "Unclosed pseudo-class at position " ++ toString position
  | unknownClass name =>
    "'" ++ name ++ "' was detected as a pseudo-class and is either unsupported or invalid. "
      ++ "If the syntax was not intended to be recognized as a pseudo-class, "
      ++ "please escape the colon."
  | misusedClass name => "Invalid syntax for pseudo class '" ++ name ++ "'"
  | undefinedClass name =>
    "Undefined custom selector '" ++ name ++ "' found at position " ++ toString position

end Flaw

/-- The lines of a text, each with the length of the break that ends it. -/
def linesFrom : (fuel : Nat) → (line : List Char) → List Char → List (List Char × Nat)
  | 0, line, _ | _, line, [] => [(line, 0)]
  | fuel + 1, line, c :: rest =>
    if c == '\n' || c == '\r' then
      let n := newlineLength (c :: rest)
      (line, n) :: linesFrom fuel [] (rest.drop (n - 1))
    else linesFrom fuel (line ++ [c]) rest

/-- The lines with a mark below a position. Of several lines the marked one has an arrow before it
and the others are indented. -/
def markedLines (position : Nat) (alone : Bool) :
    (start : Nat) → List (List Char × Nat) → List String
  | _, [] => []
  | start, (line, breakLength) :: rest =>
    let mark (indent : Nat) : String := String.ofList (List.replicate indent ' ') ++ "^"
    let text := String.ofList line
    let next := start + line.length + breakLength
    let shown :=
      if alone then [text, mark (position - start)]
      else if start ≤ position && position < next then
        let indent := position - start + 4 - (if start + line.length < position then 1 else 0)
        ["--> " ++ text, mark indent]
      else ["    " ++ text]
    shown ++ markedLines position alone next rest

/-- The number of the line that holds a position; the first if none does. -/
def lineNumber (position : Nat) : (start number : Nat) → List (List Char × Nat) → Nat
  | _, _, [] => 1
  | start, number, (line, breakLength) :: rest =>
    let next := start + line.length + breakLength
    if start ≤ position && position < next then number
    else lineNumber position next (number + 1) rest

end Selector

/-- Why a text is refused as a list of selectors; positions count characters. -/
inductive SelectorError
  | malformed (text : String) (flaw : Selector.Flaw) (position : Nat)
  | atRule (position : Nat)
  | pseudoElement (position : Nat)
  deriving DecidableEq, Repr

open Selector in
def SelectorError.message : SelectorError → String
  | malformed text flaw position =>
    let lines := linesFrom text.length [] text.toList
    flaw.describe position ++ "\n  line " ++ toString (lineNumber position 0 1 lines) ++ ":\n"
      ++ String.intercalate "\n" (markedLines position (lines.length = 1) 0 lines)
  | atRule position => "At-rules found at position " ++ toString position
  | pseudoElement position => "Pseudo-element found at position " ++ toString position

end EditorBlocks
