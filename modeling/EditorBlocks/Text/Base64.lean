import EditorBlocks.Text.Digit
/-!
Octets written with the 64 characters that each stand for six bits.
-/

namespace EditorBlocks.Text

/-- The six bits of a character of the base-64 alphabet. -/
def sixBits? (c : Char) : Option Nat :=
  if 'A' ≤ c && c ≤ 'Z' then some (c.toNat - 65)
  else if 'a' ≤ c && c ≤ 'z' then some (c.toNat - 71)
  else if isAsciiDigit c then some (c.toNat + 4)
  else if c == '+' then some 62
  else if c == '/' then some 63
  else none

/-- The octets of base-64 text; characters outside the alphabet are passed over. `held` has the bits
of a group of four that has begun. -/
def octetsFrom : (held : List Nat) → (padding : Nat) → List Char → Option (List Nat)
  | held, _, [] => if held.isEmpty then some [] else none
  | held, padding, c :: rest =>
    match sixBits? c with
    | some bits =>
      match held with
      | [a, b, d] =>
        let n := ((a * 64 + b) * 64 + d) * 64 + bits
        (octetsFrom [] 0 rest).map ([n / 65536, n / 256 % 256, n % 256] ++ ·)
      | held => octetsFrom (held ++ [bits]) 0 rest
    | none =>
      if c == '=' then
        match held with
        | [a, b] =>
          if padding + 1 < 2 then octetsFrom held (padding + 1) rest else some [a * 4 + b / 16]
        | [a, b, d] => some [a * 4 + b / 16, b % 16 * 16 + d / 4]
        | held => octetsFrom held padding rest
      else octetsFrom held padding rest

/-- The octets that a text writes. -/
def octetsOfBase64? (cs : List Char) : Option (List Nat) := octetsFrom [] 0 cs

end EditorBlocks.Text
