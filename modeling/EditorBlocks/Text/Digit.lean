import EditorBlocks.Text.Blank
/-!
Digits of ASCII, hexadecimal ones included, and decimal digits of all scripts, with the whole
numbers that they make.
-/

namespace EditorBlocks.Text

def isAsciiDigit (c : Char) : Bool := '0' ≤ c && c ≤ '9'

/-- The number that ASCII digits make. -/
def asciiValue (cs : List Char) : Nat := cs.foldl (fun n c => n * 10 + (c.toNat - 48)) 0

def hexValue? (c : Char) : Option Nat :=
  if '0' ≤ c ∧ c ≤ '9' then some (c.toNat - 48)
  else if 'a' ≤ c ∧ c ≤ 'f' then some (c.toNat - 87)
  else if 'A' ≤ c ∧ c ≤ 'F' then some (c.toNat - 55)
  else none

def isHexDigit (c : Char) : Bool := (hexValue? c).isSome

/-- The number that hexadecimal digits make. -/
def hexNumber (cs : List Char) : Nat := cs.foldl (fun n c => n * 16 + (hexValue? c).getD 0) 0

/-- The number that the first characters make, if there are so many hexadecimal digits. -/
def hexPrefix? (width : Nat) (cs : List Char) : Option Nat :=
  let digits := (cs.take width).takeWhile isHexDigit
  if digits.length = width then some (hexNumber digits) else none

/-- The code points of the zeros; the nine code points after each are the other digits. -/
def digitZeros : List Nat := [
  48, 1632, 1776, 1984, 2406, 2534, 2662, 2790, 2918, 3046, 3174, 3302, 3430, 3558, 3664, 3792,
  3872, 4160, 4240, 6112, 6160, 6470, 6608, 6784, 6800, 6992, 7088, 7232, 7248, 42528, 43216,
  43264, 43472, 43504, 43600, 44016, 65296, 66720, 68912, 69734, 69872, 69942, 70096, 70384,
  70736, 70864, 71248, 71360, 71472, 71904, 72016, 72784, 73040, 73120, 92768, 92864, 93008,
  120782, 120792, 120802, 120812, 120822, 123200, 123632, 125264, 130032
]

/-- The value of a decimal digit of any script. -/
def digitValue? (c : Char) : Option Nat :=
  (digitZeros.find? fun first => first ≤ c.toNat && c.toNat ≤ first + 9).map (c.toNat - ·)

/-- Digits in groups joined by single underscores, read in base ten onto `total`; the count of
digits is limited to `room`. -/
def readDigits (room : Nat) (total : Nat) : List Char → Option Nat
  | [] => none
  | c :: rest => do
    let value ← digitValue? c
    match room, rest with
    | 0, _ => none
    | _ + 1, [] => some (total * 10 + value)
    | room + 1, '_' :: rest => readDigits room (total * 10 + value) rest
    | room + 1, rest => readDigits room (total * 10 + value) rest

/-- The most digits that a whole number may have. -/
def digitLimit : Nat := 4300

/-- A whole number has no more digits than it may have. -/
def fitsDigitLimit (n : Int) : Bool := (Nat.toDigits 10 n.natAbs).length ≤ digitLimit

/-- The text of a whole number that has no more digits than it may have. -/
def intText? (n : Int) : Option String := if fitsDigitLimit n then some (toString n) else none

theorem intText?_of_fits {n : Int} (h : fitsDigitLimit n) : intText? n = some (toString n) := if_pos h

theorem intText?_eq_none {n : Int} : intText? n = none ↔ fitsDigitLimit n = false := by
  simp [intText?]

/-- The blanks allowed around a number; the separators U+001C to U+001F are none of them. -/
def isNumberBlank (c : Char) : Bool := isBlank c && !(28 ≤ c.toNat && c.toNat ≤ 31)

/-- Removes the blanks around a number. -/
def trimNumber (cs : List Char) : List Char :=
  ((cs.dropWhile isNumberBlank).reverse.dropWhile isNumberBlank).reverse

/-- Perhaps one sign, then digits of any script. -/
def signedDigits? : List Char → Option Int
  | '-' :: digits => (readDigits digitLimit 0 digits).map fun n => -(n : Int)
  | '+' :: digits => (readDigits digitLimit 0 digits).map Int.ofNat
  | digits => (readDigits digitLimit 0 digits).map Int.ofNat

/-- A whole number with blanks around it. -/
def parseInt? (s : String) : Option Int := signedDigits? (trimNumber s.toList)

end EditorBlocks.Text
