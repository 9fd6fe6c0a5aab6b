import EditorBlocks.Markup.References
import EditorBlocks.Text.CodePoint
import EditorBlocks.Text.Digit
/-!
Character references in text and in attribute values.
-/

namespace EditorBlocks.Markup

def isLetter (c : Char) : Bool := ('a' ≤ c && c ≤ 'z') || ('A' ≤ c && c ≤ 'Z')

/-- What the numbers 0x80 to 0x9F stand for: the characters of a legacy encoding. -/
def legacyPoints : List Nat := [
  0x20AC, 0x81, 0x201A, 0x0192, 0x201E, 0x2026, 0x2020, 0x2021, 0x02C6, 0x2030, 0x0160, 0x2039,
  0x0152, 0x8D, 0x017D, 0x8F, 0x90, 0x2018, 0x2019, 0x201C, 0x201D, 0x2022, 0x2013, 0x2014, 0x02DC,
  0x2122, 0x0161, 0x203A, 0x0153, 0x9D, 0x017E, 0x0178]

/-- The character that a number stands for. -/
def pointChar (n : Nat) : Char :=
  if n = 0 then '\uFFFD'
  else if 0x80 ≤ n && n ≤ 0x9F then Text.codePoint (legacyPoints.getD (n - 0x80) n)
  else Text.codePoint n

/-- A reference by number, after `&#`: what it stands for and how many characters it takes. -/
def numericReference (cs : List Char) : List Char × Nat :=
  let mark := (cs.take 1).filter fun c => c == 'x' || c == 'X'
  let digits := (cs.drop mark.length).takeWhile
    (if mark.isEmpty then Text.isAsciiDigit else Text.isHexDigit)
  if digits.isEmpty then ('&' :: '#' :: mark, mark.length)
  else
    let number := if mark.isEmpty then Text.asciiValue digits else Text.hexNumber digits
    let length := mark.length + digits.length
    ([pointChar number], if (cs.drop length).head? == some ';' then length + 1 else length)

/-- The entry with the longest name that the text begins with. -/
def longestName (cs : List Char) : Option (List Char × List Char) :=
  references.foldl
    (fun best entry =>
      if entry.1.isPrefixOf cs && best.all (·.1.length < entry.1.length) then some entry
      else best)
    none

/-- A reference by name. In a value, a name without semicolon is no reference when a letter, a
digit or an equals sign follows. -/
def namedReference (inValue : Bool) (cs : List Char) : List Char × Nat :=
  match longestName cs with
  | none => (['&'], 0)
  | some (name, expansion) =>
    let follows := match (cs.drop name.length).head? with
      | some c => isLetter c || Text.isAsciiDigit c || c == '='
      | none => false
    if inValue && name.getLast? != some ';' && follows then (['&'], 0)
    else (expansion, name.length)

/-- What stands for the ampersand and the characters after it, and how many of those it takes. -/
def reference (inValue : Bool) : List Char → List Char × Nat
  | '#' :: rest =>
    let (chars, taken) := numericReference rest
    (chars, taken + 1)
  | cs => namedReference inValue cs

/-- An attribute value with its references resolved. -/
def resolveReferences : List Char → List Char
  | [] => []
  | '&' :: rest =>
    let found := reference true rest
    found.1 ++ resolveReferences (rest.drop found.2)
  | c :: rest => c :: resolveReferences rest
  termination_by cs => cs.length
  decreasing_by all_goals (simp only [List.length_drop, List.length_cons]; omega)

end EditorBlocks.Markup
