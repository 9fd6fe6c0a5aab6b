/-!
Double-precision numbers as exact dyadic values. Main definitions: `ofRatio`, the double nearest a
fraction, and `toText`, the shortest decimal that reads back.
-/

namespace EditorBlocks

/-- A finite double is `significand * 2 ^ exponent`; either the significand has 53 bits or the
exponent is the least one. -/
inductive Binary64
  | nan
  | infinity (negative : Bool)
  | finite (negative : Bool) (significand : Nat) (exponent : Int)
  deriving DecidableEq, Repr

namespace Binary64

/-- The quotient rounded to the nearest whole number, a tie to the even one. -/
def roundDiv (num den : Nat) : Nat :=
  let q := num / den
  let r := num % den
  if 2 * r < den || (2 * r == den && q % 2 == 0) then q else q + 1

def minExponent : Int := -1074
def maxExponent : Int := 971

/-- The fraction `num / den` divided by `2 ^ exponent`. -/
def scaled (num den : Nat) (exponent : Int) : Nat × Nat :=
  let scale := Nat.pow 2 exponent.natAbs
  if exponent < 0 then (num * scale, den) else (num, den * scale)

/-- The exponent that leaves 53 bits before the point, or the least one. -/
def exponentOf (num den : Nat) : Int :=
  let guess : Int := (num.log2 : Int) - den.log2 - 52
  let (n, d) := scaled num den guess
  max minExponent (if n < d * Nat.pow 2 52 then guess - 1 else guess)

def zero (negative : Bool) : Binary64 := finite negative 0 minExponent

/-- The double nearest `num / den`, ties to the even significand. -/
def ofRatio (negative : Bool) (num den : Nat) : Binary64 :=
  if num == 0 then zero negative
  else
    let exponent := exponentOf num den
    let (n, d) := scaled num den exponent
    let rounded := roundDiv n d
    let (significand, exponent) :=
      if rounded == Nat.pow 2 53 then (Nat.pow 2 52, exponent + 1) else (rounded, exponent)
    if maxExponent < exponent then infinity negative else finite negative significand exponent

def ofInt (n : Int) : Binary64 := ofRatio (n < 0) n.natAbs 1

def decimalLength (n : Nat) : Nat := (Nat.toDigits 10 n).length

/-- The double nearest `digits * 10 ^ exponent`. Far out of range the powers are not computed. -/
def ofDecimal (negative : Bool) (digits : Nat) (exponent : Int) : Binary64 :=
  if digits == 0 then zero negative
  else if 400 < exponent then infinity negative
  else if exponent + decimalLength digits < -400 then zero negative
  else if exponent < 0 then ofRatio negative digits (Nat.pow 10 exponent.natAbs)
  else ofRatio negative (digits * Nat.pow 10 exponent.natAbs) 1

/-- The magnitude as a fraction. -/
def ratio (significand : Nat) (exponent : Int) : Nat × Nat :=
  let scale := Nat.pow 2 exponent.natAbs
  if exponent < 0 then (significand, scale) else (significand * scale, 1)

/-- The power of ten at which `num / den` starts: it lies between `10 ^ (k - 1)` and `10 ^ k`. -/
def decimalPoint (num den : Nat) : Int :=
  let guess : Int := (decimalLength num : Int) - decimalLength den
  let reached (k : Int) : Bool :=
    if k < 0 then den ≤ num * Nat.pow 10 k.natAbs else den * Nat.pow 10 k.natAbs ≤ num
  if reached guess then guess + 1 else guess

/-- The nearer of two candidates that read back; a tie goes to the even one. -/
def nearer (num den below above : Nat) (belowFits aboveFits : Bool) : Option Nat :=
  match belowFits, aboveFits with
  | true, true =>
    let toBelow := num - below * den
    let toAbove := above * den - num
    some (if toBelow < toAbove || (toBelow == toAbove && below % 2 == 0) then below else above)
  | true, false => some below
  | false, true => some above
  | false, false => none

/-- The first count of digits, from `17 - left` on, with a decimal that reads back as the value:
its digits and the power of ten of the last one. -/
def shortestFrom (significand : Nat) (exponent : Int) (num den : Nat) (point : Int) :
    (left : Nat) → Nat × Int
  | 0 => (num / den, 0)
  | left + 1 =>
    let power := point - (17 - left : Nat)
    let scale := Nat.pow 10 power.natAbs
    let (n, d) := if power < 0 then (num * scale, den) else (num, den * scale)
    let below := n / d
    let fits (candidate : Nat) : Bool :=
      ofDecimal false candidate power == finite false significand exponent
    match nearer n d below (below + 1) (fits below) (fits (below + 1)) with
    | some digits => (digits, power)
    | none => shortestFrom significand exponent num den point left

/-- The shortest decimal that reads back as the value, the nearest of those. -/
def shortest (significand : Nat) (exponent : Int) : Nat × Int :=
  let (num, den) := ratio significand exponent
  shortestFrom significand exponent num den (decimalPoint num den) 17

/-- Decimal digits without trailing zeros, and where the point stands among them. -/
def digitsOf (significand : Nat) (exponent : Int) : List Char × Int :=
  if significand == 0 then (['0'], 1)
  else
    let (digits, power) := shortest significand exponent
    let shown := Nat.toDigits 10 digits
    let kept := (shown.reverse.dropWhile (· == '0')).reverse
    (kept, shown.length + power)

/-- An exponent with its sign and at least two digits. -/
def exponentText (e : Int) : List Char :=
  let digits := Nat.toDigits 10 e.natAbs
  (if e < 0 then '-' else '+') :: (if digits.length < 2 then '0' :: digits else digits)

/-- Positional between 10^-4 and 10^16, always with a digit after the point; scientific outside. -/
def layout (digits : List Char) (point : Int) : List Char :=
  if point ≤ -4 || 16 < point then
    let fraction := digits.drop 1
    digits.take 1 ++ (if fraction.isEmpty then [] else '.' :: fraction)
      ++ 'e' :: exponentText (point - 1)
  else if point ≤ 0 then
    '0' :: '.' :: (List.replicate point.natAbs '0' ++ digits)
  else
    let whole := digits.take point.natAbs
    let fraction := digits.drop point.natAbs
    whole ++ List.replicate (point.natAbs - whole.length) '0' ++ '.'
      :: (if fraction.isEmpty then ['0'] else fraction)

/-- The shortest text of a finite magnitude. -/
def magnitudeText (significand : Nat) (exponent : Int) : String :=
  let (digits, point) := digitsOf significand exponent
  String.ofList (layout digits point)

/-- The number as text; the two kinds that are not finite have names. -/
def toText : Binary64 → String
  | nan => "nan"
  | infinity negative => if negative then "-inf" else "inf"
  | finite negative significand exponent =>
    (if negative then "-" else "") ++ magnitudeText significand exponent

/-- The whole part, toward zero. -/
def truncate? : Binary64 → Option Int
  | finite negative significand exponent =>
    let (num, den) := ratio significand exponent
    some (if negative then -((num / den : Nat) : Int) else (num / den : Nat))
  | _ => none

/-- The whole number that the double is. -/
def toInt? (x : Binary64) : Option Int :=
  match x with
  | finite _ significand exponent =>
    let (num, den) := ratio significand exponent
    if num % den == 0 then truncate? x else none
  | _ => none

/-- The number in millionths, rounded to a whole number, ties to the even one. -/
def toMillionths? : Binary64 → Option Int
  | finite negative significand exponent =>
    let (num, den) := ratio significand exponent
    match ofRatio false (num % den * 1000000) den with
    | finite _ s e =>
      let (n, d) := ratio s e
      let total : Int := num / den * 1000000 + roundDiv n d
      some (if negative then -total else total)
    | _ => none
  | _ => none

def isZero : Binary64 → Bool
  | finite _ 0 _ => true
  | _ => false

/-- The product with a whole number, rounded. -/
def mulNat (x : Binary64) (n : Nat) : Binary64 :=
  match x with
  | finite negative significand exponent =>
    let (num, den) := ratio significand exponent
    ofRatio negative (num * n) den
  | other => other

/-- The rounded sum of two magnitudes of one sign. -/
def addSameSign (x y : Binary64) : Binary64 :=
  match x, y with
  | finite negative s e, finite _ s' e' =>
    let (n, d) := ratio s e
    let (n', d') := ratio s' e'
    ofRatio negative (n * d' + n' * d) (d * d')
  | finite .., other => other
  | other, _ => other

def negate : Binary64 → Binary64
  | nan => nan
  | infinity negative => infinity !negative
  | finite negative significand exponent => finite (!negative) significand exponent

end Binary64
end EditorBlocks
