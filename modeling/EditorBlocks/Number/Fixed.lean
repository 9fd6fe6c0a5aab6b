import EditorBlocks.Number.Binary64
/-!
Numbers with a given count of digits: fixed places after the point, or fixed significant digits.
-/

namespace EditorBlocks.Binary64

/-- A whole number of units of `10 ^ -places` as a decimal. -/
def placesText (places units : Nat) : List Char :=
  let digits := Nat.toDigits 10 units
  let digits := List.replicate (places + 1 - digits.length) '0' ++ digits
  let whole := digits.take (digits.length - places)
  if places = 0 then whole else whole ++ '.' :: digits.drop (digits.length - places)

/-- A magnitude rounded to so many places, ties to the even digit. -/
def fixedText (places num den : Nat) : List Char :=
  placesText places (roundDiv (num * Nat.pow 10 places) den)

/-- So many significant digits of a fraction, and the exponent of the first. -/
def significant (count num den : Nat) : Nat × Int :=
  if num = 0 then (0, 0)
  else
    let first := decimalPoint num den - 1
    let power := first - (count - 1 : Nat)
    let digits :=
      if power < 0 then roundDiv (num * Nat.pow 10 power.natAbs) den
      else roundDiv num (den * Nat.pow 10 power.natAbs)
    if digits = Nat.pow 10 count then (Nat.pow 10 (count - 1), first + 1) else (digits, first)

/-- One digit before the point, so many after it, and an exponent. -/
def scientificText (places num den : Nat) : List Char :=
  let (digits, exponent) := significant (places + 1) num den
  placesText places digits ++ 'e' :: exponentText exponent

/-- Without the zeros at the end of a fraction, and without its point if nothing is left. -/
def withoutTrailingZeros (cs : List Char) : List Char :=
  if cs.contains '.' then
    let kept := cs.reverse.dropWhile (· == '0')
    (if kept.head? == some '.' then kept.drop 1 else kept).reverse
  else cs

/-- So many significant digits, positional unless the number is very small or has more digits before
the point. -/
def generalText (keepZeros : Bool) (count num den : Nat) : List Char :=
  let count := max 1 count
  let (digits, exponent) := significant count num den
  let trimmed (cs : List Char) : List Char := if keepZeros then cs else withoutTrailingZeros cs
  if -4 ≤ exponent && exponent < count then
    trimmed (fixedText (count - 1 - exponent).toNat num den)
  else trimmed (placesText (count - 1) digits) ++ 'e' :: exponentText exponent

end EditorBlocks.Binary64
