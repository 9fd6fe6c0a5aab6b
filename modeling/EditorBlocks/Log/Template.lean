import EditorBlocks.Data.Quoted
import EditorBlocks.Number.Fixed
import EditorBlocks.Text.Digit
/-!
Message templates: texts with places, marked by a percent sign, that values are put into.
-/

namespace EditorBlocks.Log

/-- Why a template cannot be filled. -/
inductive TemplateProblem
  /-- the values do not go with the places -/
  | mismatch
  /-- a place of no kind -/
  | badPlace
  | missingKey (key : String)
  /-- a number that is no character, or has no whole part -/
  | outOfRange
  deriving DecidableEq, Repr

/-- What stands between the percent sign and the letter of a place. -/
structure Place where
  left : Bool
  plus : Bool
  space : Bool
  alternate : Bool
  zeros : Bool
  width : Nat
  precision : Option Nat
  deriving Repr

namespace Place

def plain : Place := ⟨false, false, false, false, false, 0, none⟩

def withFlag? (p : Place) : Char → Option Place
  | '-' => some { p with left := true }
  | '+' => some { p with plus := true }
  | ' ' => some { p with space := true }
  | '#' => some { p with alternate := true }
  | '0' => some { p with zeros := true }
  | _ => none

def flags (p : Place) : List Char → Place × List Char
  | [] => (p, [])
  | c :: rest =>
    match p.withFlag? c with
    | some p => flags p rest
    | none => (p, c :: rest)

/-- Fills up to the width: spaces on either side, or zeros after what a number begins with. -/
def fill (p : Place) (numeric : Bool) (lead body : List Char) : List Char :=
  let missing := p.width - (lead.length + body.length)
  if p.left then lead ++ body ++ List.replicate missing ' '
  else if numeric && p.zeros then lead ++ List.replicate missing '0' ++ body
  else List.replicate missing ' ' ++ lead ++ body

def signText (p : Place) (negative : Bool) : List Char :=
  if negative then ['-'] else if p.plus then ['+'] else if p.space then [' '] else []

end Place

/-- A value as plain text. -/
def plainText : Value → String
  | .str s => s
  | v => v.quoted

/-- A text with escapes in place of all that is not ASCII. -/
def asciiOnly (cs : List Char) : List Char :=
  cs.flatMap fun c =>
    let n := c.toNat
    if n < 128 then [c]
    else if n < 0x100 then '\\' :: 'x' :: Text.hexDigits 2 n
    else if n < 0x10000 then '\\' :: 'u' :: Text.hexDigits 4 n
    else '\\' :: 'U' :: Text.hexDigits 8 n

/-- A whole number, or a number cut to its whole part. -/
def wholeOf (letter : Char) : Value → Except TemplateProblem Int
  | .int n => .ok n
  | .bool b => .ok (if b then 1 else 0)
  | .float x =>
    if letter == 'd' || letter == 'i' || letter == 'u' then
      (x.truncate?.map Except.ok).getD (.error .outOfRange)
    else .error .mismatch
  | _ => .error .mismatch

def wholeText (p : Place) (letter : Char) (n : Int) : List Char :=
  let base := if letter == 'o' then 8 else if letter == 'x' || letter == 'X' then 16 else 10
  let digits := Nat.toDigits base n.natAbs
  let digits := List.replicate (p.precision.getD 0 - digits.length) '0' ++ digits
  let digits := if letter == 'X' then digits.map Char.toUpper else digits
  let mark := if p.alternate && base != 10 then ['0', letter] else []
  p.fill true (p.signText (n < 0) ++ mark) digits

def numberOf : Value → Except TemplateProblem Binary64
  | .int n =>
    match Binary64.ofInt n with
    | .infinity _ => .error .outOfRange
    | x => .ok x
  | .bool b => .ok (Binary64.ofInt (if b then 1 else 0))
  | .float x => .ok x
  | _ => .error .mismatch

def numberText (p : Place) (letter : Char) (x : Binary64) : List Char :=
  let places := p.precision.getD 6
  let shown (num den : Nat) : List Char :=
    if letter == 'f' || letter == 'F' then Binary64.fixedText places num den
    else if letter == 'e' || letter == 'E' then Binary64.scientificText places num den
    else Binary64.generalText p.alternate places num den
  let (negative, body) := match x with
    | .nan => (false, "nan".toList)
    | .infinity negative => (negative, "inf".toList)
    | .finite negative significand exponent =>
      let (num, den) := Binary64.ratio significand exponent
      (negative, shown num den)
  let body := if letter.isUpper then body.map Char.toUpper else body
  p.fill true (p.signText negative) body

def characterOf : Value → Except TemplateProblem Char
  | .int n => if 0 ≤ n && n ≤ 0x10FFFF then .ok (Char.ofNat n.toNat) else .error .outOfRange
  | .str s =>
    match s.toList with
    | [c] => .ok c
    | _ => .error .mismatch
  | _ => .error .mismatch

/-- A value in a place of a kind. -/
def placed (p : Place) (letter : Char) (v : Value) : Except TemplateProblem (List Char) := do
  let text (cs : List Char) : List Char :=
    p.fill false [] (match p.precision with
      | some n => cs.take n
      | none => cs)
  if letter == 's' then .ok (text (plainText v).toList)
  else if letter == 'r' then .ok (text v.quoted.toList)
  else if letter == 'a' then .ok (text (asciiOnly v.quoted.toList))
  else if ['d', 'i', 'u', 'o', 'x', 'X'].contains letter then
    .ok (wholeText p letter (← wholeOf letter v))
  else if ['e', 'E', 'f', 'F', 'g', 'G'].contains letter then
    .ok (numberText p letter (← numberOf v))
  else if letter == 'c' then .ok (p.fill false [] [← characterOf v])
  else .error .badPlace

/-- What places are filled from: values in order, or one mapping. -/
structure Arguments where
  values : List Value
  mapping : Option (List (Value × Value))

namespace Arguments

/-- One mapping with entries is used by its keys. -/
def ofValues : List Value → Arguments
  | [.map (e :: es)] => ⟨[.map (e :: es)], some (e :: es)⟩
  | vs => ⟨vs, none⟩

def next (a : Arguments) : Except TemplateProblem (Value × Arguments) :=
  match a.values with
  | v :: rest => .ok (v, { a with values := rest })
  | [] => .error .mismatch

/-- The value under a key, which is the next one then. -/
def select (a : Arguments) (key : String) : Except TemplateProblem Arguments :=
  match a.mapping with
  | none => .error .mismatch
  | some es =>
    match (Value.map es).member? key with
    | some v => .ok { a with values := [v] }
    | none => .error (.missingKey key)

end Arguments

/-- The key of a place, which stands in brackets; brackets inside come in pairs. -/
def placeKey (depth : Nat) (key : List Char) :
    List Char → Except TemplateProblem (String × List Char)
  | [] => .error .badPlace
  | ')' :: rest =>
    match depth with
    | 0 => .ok (String.ofList key, rest)
    | depth + 1 => placeKey depth (key ++ [')']) rest
  | '(' :: rest => placeKey (depth + 1) (key ++ ['(']) rest
  | c :: rest => placeKey depth (key ++ [c]) rest

/-- A count in digits, or a star that takes it from the values. -/
def placeCount (a : Arguments) (cs : List Char) :
    Except TemplateProblem (Option Int × Arguments × List Char) :=
  match cs with
  | '*' :: rest => do
    match ← a.next with
    | (.int n, a) => .ok (some n, a, rest)
    | (.bool b, a) => .ok (some (if b then 1 else 0), a, rest)
    | _ => .error .mismatch
  | cs =>
    let digits := cs.takeWhile Text.isAsciiDigit
    .ok (if digits.isEmpty then none else some (Text.asciiValue digits), a, cs.drop digits.length)

/-- A place after its percent sign: the text put in, the arguments left and what follows. -/
def fillPlace (a : Arguments) (cs : List Char) :
    Except TemplateProblem (List Char × Arguments × List Char) := do
  let (a, cs) ← match cs with
    | '(' :: rest => do
      let (key, rest) ← placeKey 0 [] rest
      Except.ok (← a.select key, rest)
    | cs => .ok (a, cs)
  let (p, cs) := Place.plain.flags cs
  let (width, a, cs) ← placeCount a cs
  let p := match width with
    | some n => { p with width := n.natAbs, left := p.left || n < 0 }
    | none => p
  let (p, a, cs) ← match cs with
    | '.' :: rest => do
      let (precision, a, rest) ← placeCount a rest
      Except.ok ({ p with precision := some ((precision.getD 0).toNat) }, a, rest)
    | cs => .ok (p, a, cs)
  let cs := match cs with
    | c :: rest => if c == 'h' || c == 'l' || c == 'L' then rest else cs
    | [] => cs
  match cs with
  | [] => .error .badPlace
  | '%' :: rest => .ok (['%'], a, rest)
  | letter :: rest => do
    let (v, a) ← a.next
    .ok (← placed p letter v, a, rest)

/-- The text of a template; each step takes at least one character. -/
def fillFrom : (fuel : Nat) → Arguments → List Char → Except TemplateProblem (List Char)
  | 0, _, _ => .ok []
  | _, a, [] => if a.values.isEmpty || a.mapping.isSome then .ok [] else .error .mismatch
  | fuel + 1, a, '%' :: rest => do
    let (text, a, rest) ← fillPlace a rest
    .ok (text ++ (← fillFrom fuel a rest))
  | fuel + 1, a, c :: rest => do .ok (c :: (← fillFrom fuel a rest))

/-- A message: its template with the values put in. Without values the template is the message. -/
def fillTemplate (template : String) (values : List Value) : Except TemplateProblem String :=
  if values.isEmpty then .ok template
  else
    let cs := template.toList
    (fillFrom (cs.length + 1) (.ofValues values) cs).map String.ofList

end EditorBlocks.Log
