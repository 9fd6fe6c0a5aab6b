import EditorBlocks.Selector.Basic
import EditorBlocks.Selector.Lexeme
/-!
Tokens of a selector text. The tokens are tried in a fixed order, and each takes all it can.
-/

namespace EditorBlocks.Selector

inductive Combinator
  | comma
  | descendant
  | child
  | adjacent
  | sibling
  deriving DecidableEq, Repr

inductive Token
  | close
  | containsText (own : Bool) (texts : List String)
  /-- `opens` says that a list of selectors follows -/
  | nthChild (fromEnd : Bool) (cycle : Cycle) (opens : Bool)
  | nthOfType (fromEnd : Bool) (cycle : Cycle)
  | language (ranges : List String)
  | direction (direction : Text.Direction)
  | customClass (name : String)
  | pseudoClass (name : String) (opens : Bool)
  | pseudoElement
  | ampersand
  | atRule
  | id (name : String)
  | hasClass (name : String)
  | tag (space : Space) (name : String)
  | withAttribute (test : AttributeTest) (negated : Bool)
  | combinator (combinator : Combinator)
  deriving Repr

def character? (c : Char) : List Char → Option (List Char)
  | d :: rest => if d == c then some rest else none
  | [] => none

/-- A word of ASCII letters, in capitals or not. -/
def keyword? (word : String) (cs : List Char) : Option (List Char) :=
  let n := word.length
  if (cs.take n).map Text.lowerAsciiChar == word.toList then some (cs.drop n) else none

def name? (cs : List Char) : Option (String × List Char) :=
  (nameLength? cs).map fun n => (unescapeName (cs.take n), cs.drop n)

def close? (cs : List Char) : Option (List Char) := character? ')' (afterSpacing cs)

/-- A pseudo-class with its opening bracket, if it has one. -/
def pseudoName? (cs : List Char) : Option ((String × Bool) × List Char) := do
  let (name, rest) ← name? (← character? ':' cs)
  match rest with
  | '(' :: rest => some ((Text.lowerAscii name, true), afterSpacing rest)
  | _ => some ((Text.lowerAscii name, false), rest)

def digits (cs : List Char) : List Char × List Char :=
  (cs.takeWhile Char.isDigit, cs.dropWhile Char.isDigit)

def numberOf (negative : Bool) (digits : List Char) : Int :=
  let n : Int := Text.asciiValue digits
  if negative then -n else n

def sign (cs : List Char) : Option Bool × List Char :=
  match cs with
  | '-' :: rest => (some true, rest)
  | '+' :: rest => (some false, rest)
  | _ => (none, cs)

/-- The offset that may follow the letter n. -/
def offset? (cs : List Char) : Option (Int × List Char) :=
  match sign (afterSpacing cs) with
  | (some negative, rest) =>
    match digits (afterSpacing rest) with
    | ([], _) => none
    | (ds, rest) => some (numberOf negative ds, rest)
  | (none, _) => none

/-- Counted places: `even`, `odd`, a number, or a multiple of n and an offset. -/
def cycle? (cs : List Char) : Option (Cycle × List Char) :=
  match keyword? "even" cs, keyword? "odd" cs with
  | some rest, _ => some (⟨2, 0, true⟩, rest)
  | _, some rest => some (⟨2, 1, true⟩, rest)
  | none, none =>
    let (negative, rest) := sign cs
    let negative := negative == some true
    match digits rest, keyword? "n" (digits rest).2 with
    | ([], _), none => none
    | (ds, rest), none => some (⟨0, numberOf negative ds, false⟩, rest)
    | (ds, _), some rest =>
      let step := numberOf negative (if ds.isEmpty then ['1'] else ds)
      match offset? rest with
      | some (offset, rest) => some (⟨step, offset, true⟩, rest)
      | none => some (⟨step, 0, true⟩, rest)

/-- White space, then `of`, then white space; comments may stand around. -/
def ofList? (cs : List Char) : Option (List Char) :=
  match skipSpacing cs.length cs with
  | (false, _) => none
  | (true, rest) => do
    let rest ← keyword? "of" rest
    match skipSpacing rest.length rest with
    | (false, _) => none
    | (true, rest) => some rest

/-- Values with commas between them, up to the closing bracket: the text they take. -/
def valuesLength? : (fuel : Nat) → List Char → Option Nat
  | 0, _ => none
  | fuel + 1, cs => do
    let n ← valueLength? cs
    let rest := cs.drop n
    let spaced := afterSpacing rest
    match spaced with
    | ',' :: more =>
      let next := afterSpacing more
      (valuesLength? fuel next).map (· + (cs.length - next.length))
    | ')' :: _ => some n
    | _ => none

/-- All values that a text holds, whatever stands between them. -/
def valuesIn : (fuel : Nat) → List Char → List String
  | 0, _ | _, [] => []
  | fuel + 1, c :: rest =>
    match valueLength? (c :: rest) with
    | some (n + 1) => unescapeValue ((c :: rest).take (n + 1)) :: valuesIn fuel (rest.drop n)
    | _ =>
      match afterSpacing (c :: rest) with
      | ',' :: more => valuesIn fuel (afterSpacing more)
      | _ => valuesIn fuel rest

/-- The text of a list of values and what follows its closing bracket. -/
def values? (cs : List Char) : Option (List Char × List Char) := do
  let n ← valuesLength? cs.length cs
  some (cs.take n, ← close? (cs.drop n))

/-- Pseudo-classes whose arguments are no selectors. -/
def specialClass? (name : String) (cs : List Char) : Option (Token × List Char) :=
  match name with
  | "contains" | "-soup-contains" | "-soup-contains-own" => do
    let (text, rest) ← values? cs
    -- escapes are resolved in the text of the values and once more in each of them
    let plain := unescapeFrom false text.length text
    some (.containsText (name == "-soup-contains-own") (valuesIn plain.length plain), rest)
  | "nth-child" | "nth-last-child" => do
    let (cycle, rest) ← cycle? cs
    let fromEnd := name == "nth-last-child"
    match close? rest with
    | some rest => some (.nthChild fromEnd cycle false, rest)
    | none => some (.nthChild fromEnd cycle true, ← ofList? rest)
  | "nth-of-type" | "nth-last-of-type" => do
    let (cycle, rest) ← cycle? cs
    some (.nthOfType (name == "nth-last-of-type") cycle, ← close? rest)
  | "lang" => do
    let (text, rest) ← values? cs
    some (.language (valuesIn text.length text), rest)
  | "dir" =>
    match keyword? "ltr" cs, keyword? "rtl" cs with
    | some rest, _ => (close? rest).map ((.direction .leftToRight), ·)
    | _, some rest => (close? rest).map ((.direction .rightToLeft), ·)
    | none, none => none
  | _ => none

/-- A token that begins with a colon. -/
def pseudo? (cs : List Char) : Option (Token × List Char) :=
  match pseudoName? cs with
  | some ((name, opens), rest) =>
    match if opens then specialClass? name rest else none with
    | some token => some token
    | none =>
      if (cs.drop 1).take 2 == ['-', '-'] then
        (name? (cs.drop 1)).map fun (name, rest) => (.customClass (Text.lowerAscii name), rest)
      else some (.pseudoClass name opens, rest)
  | none => do
    let (_, rest) ← pseudoName? (← character? ':' cs)
    some (.pseudoElement, rest)

/-- The vocabulary that a prefix with its bar asks for. -/
def space? (cs : List Char) : Option (Space × List Char) :=
  match cs with
  | '|' :: rest => some (.absent, rest)
  | '*' :: '|' :: rest => some (.any, rest)
  | _ => do
    let (name, rest) ← name? cs
    some (.named name, ← character? '|' rest)

def nameOrStar? (cs : List Char) : Option (String × List Char) :=
  match cs with
  | '*' :: rest => some ("*", rest)
  | _ => name? cs

def tag? (cs : List Char) : Option (Token × List Char) :=
  let spaced := do
    let (space, rest) ← space? cs
    let (name, rest) ← nameOrStar? rest
    some (Token.tag space name, rest)
  spaced.orElse fun _ => (nameOrStar? cs).map fun (name, rest) => (.tag .any name, rest)

/-- An operator; the flag says that the test is negated. -/
def operator? (cs : List Char) : Option ((Operator × Bool) × List Char) :=
  match cs with
  | '=' :: rest => some ((.equals, false), rest)
  | '!' :: '=' :: rest => some ((.equals, true), rest)
  | '~' :: '=' :: rest => some ((.hasWord, false), rest)
  | '^' :: '=' :: rest => some ((.startsWith, false), rest)
  | '|' :: '=' :: rest => some ((.dashed, false), rest)
  | '*' :: '=' :: rest => some ((.contains, false), rest)
  | '$' :: '=' :: rest => some ((.endsWith, false), rest)
  | _ => none

/-- What follows the name in an attribute test. The values of `type` are compared without regard to
case unless a flag says otherwise. -/
def attributeTail? (space : Space) (name : String) (cs : List Char) : Option (Token × List Char) :=
  let spaced := afterSpacing cs
  match operator? spaced with
  | none => (character? ']' spaced).map ((.withAttribute ⟨space, name, none⟩ false), ·)
  | some ((operator, negated), rest) => do
    let rest := afterSpacing rest
    let n ← valueLength? rest
    let value := unescapeValue (rest.take n)
    let rest := afterSpacing (rest.drop n)
    let test (ignoreCase : Bool) (rest : List Char) : Option (Token × List Char) :=
      (character? ']' (afterSpacing rest)).map
        ((.withAttribute ⟨space, name, some ⟨operator, value, ignoreCase⟩⟩ negated), ·)
    match keyword? "i" rest, keyword? "s" rest with
    | some rest, _ => test true rest
    | _, some rest => test false rest
    | none, none => test (Text.lowerAscii name == "type") rest

def attribute? (cs : List Char) : Option (Token × List Char) := do
  let inner := afterSpacing (← character? '[' cs)
  let spaced := do
    let (space, rest) ← space? inner
    let (name, rest) ← name? rest
    attributeTail? space name rest
  spaced.orElse fun _ => do
    let (name, rest) ← name? inner
    attributeTail? .any name rest

def combinator? (cs : List Char) : Option (Token × List Char) :=
  let (white, rest) := skipSpacing cs.length cs
  let followed (c : Combinator) (rest : List Char) : Option (Token × List Char) :=
    some (.combinator c, afterSpacing rest)
  match rest with
  | ',' :: rest => followed .comma rest
  | '>' :: rest => followed .child rest
  | '+' :: rest => followed .adjacent rest
  | '~' :: rest => followed .sibling rest
  | _ => if white then some (.combinator .descendant, rest) else none

/-- The first token of a text and what follows it. -/
def Token.next? (cs : List Char) : Option (Token × List Char) :=
  match close? cs, cs with
  | some rest, _ => some (.close, rest)
  | none, ':' :: _ => pseudo? cs
  | none, '&' :: rest => some (.ampersand, rest)
  | none, '@' :: rest => do
    let (_, rest) ← name? (← keyword? "p" rest)
    some (.atRule, rest)
  | none, '#' :: rest => (name? rest).map fun (name, rest) => (.id name, rest)
  | none, '.' :: rest => (name? rest).map fun (name, rest) => (.hasClass name, rest)
  | none, '[' :: _ => attribute? cs
  | none, _ => (tag? cs).orElse fun _ => combinator? cs

end EditorBlocks.Selector
