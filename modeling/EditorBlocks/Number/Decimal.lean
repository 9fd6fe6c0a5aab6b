import EditorBlocks.Number.Binary64
import EditorBlocks.Text.Digit
import EditorBlocks.Text.Lowercase
/-!
Reading numbers from their digits.
-/

namespace EditorBlocks

/-- The whole number that digits of a base spell. -/
def wholeOfDigits? (base : Nat) : List Char → Option Nat
  | [] => none
  | cs => cs.foldlM (fun n c => (Text.hexValue? c).bind fun d =>
      if d < base then some (n * base + d) else none) 0

namespace Binary64

/-- An exponent: a letter e, perhaps a sign, and digits. -/
def exponentOf? : List Char → Option Int
  | [] => some 0
  | e :: rest =>
    let (negative, digits) := match rest with
      | '-' :: digits => (true, digits)
      | '+' :: digits => (false, digits)
      | digits => (false, digits)
    if (e == 'e' || e == 'E') && !digits.isEmpty && digits.all Text.isAsciiDigit then
      let n : Int := Text.asciiValue digits
      some (if negative then -n else n)
    else none

/-- The double nearest a decimal without a sign. -/
def magnitudeOf? (cs : List Char) : Option Binary64 :=
  match Text.lowerAscii (String.ofList cs) with
  | "inf" | "infinity" => some (infinity false)
  | "nan" => some nan
  | _ =>
    let whole := cs.takeWhile Text.isAsciiDigit
    let rest := cs.drop whole.length
    let fraction := if rest.head? == some '.' then (rest.drop 1).takeWhile Text.isAsciiDigit else []
    let rest := if rest.head? == some '.' then rest.drop (1 + fraction.length) else rest
    if whole.isEmpty && fraction.isEmpty then none
    else do
      let exponent ← exponentOf? rest
      some (ofDecimal false (Text.asciiValue (whole ++ fraction)) (exponent - fraction.length))

/-- The double that a text spells, with blanks around it and perhaps a sign. -/
def ofText? (cs : List Char) : Option Binary64 :=
  match Text.trimList cs with
  | '-' :: rest => (magnitudeOf? rest).map negate
  | '+' :: rest => magnitudeOf? rest
  | cs => magnitudeOf? cs

end Binary64
end EditorBlocks
