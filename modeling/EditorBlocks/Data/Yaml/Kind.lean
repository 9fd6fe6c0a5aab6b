import EditorBlocks.Data.Calendar
import EditorBlocks.Data.Entries
import EditorBlocks.Text.Digit
/-!
Kinds of nodes: as tags name them, and as the text of a plain scalar shows them.
-/

namespace EditorBlocks.Yaml

inductive Kind
  | null
  | truth
  | whole
  | number
  | time
  | octets
  | text
  | sequence
  | mapping
  | set
  | pairs
  /-- the key under which entries of other mappings are merged -/
  | merge
  /-- the key of a mapping that stands for a scalar -/
  | default
  | unknown
  deriving DecidableEq, Repr

/-- What the tags with a meaning begin with. -/
def Kind.address : String := "tag:yaml.org,2002:"

def Kind.tags : List (String × Kind) := [
  ("null", null), ("bool", truth), ("int", whole), ("float", number), ("timestamp", time),
  ("binary", octets), ("str", text), ("seq", sequence), ("map", mapping), ("set", set),
  ("omap", pairs), ("pairs", pairs)]

def Kind.ofTag (name : String) : Kind :=
  ((tags.find? fun t => address ++ t.1 == name).map (·.2)).getD unknown

/-! ### Forms of plain scalars -/

/-- A way to take part of a text: what may be left after it. -/
abbrev Form := List Char → List (List Char)

namespace Form

def one (p : Char → Bool) : Form
  | c :: rest => if p c then [rest] else []
  | [] => []

def char (c : Char) : Form := one (· == c)

def optional (f : Form) : Form := fun cs => f cs ++ [cs]

def seq (f g : Form) : Form := fun cs => (f cs).flatMap g

def either (f g : Form) : Form := fun cs => f cs ++ g cs

/-- As many characters of a class as there are. -/
def many (p : Char → Bool) : Form := fun cs => [cs.dropWhile p]

def repeated (f : Form) : (count : Nat) → Form
  | 0 => fun cs => [cs]
  | n + 1 => seq f (repeated f n)

/-- A form once or more often, up to `fuel` times. -/
def some (f : Form) : (fuel : Nat) → Form
  | 0 => fun _ => []
  | fuel + 1 => seq f (either (some f fuel) fun cs => [cs])

def all : List Form → Form
  | [] => fun cs => [cs]
  | f :: rest => seq f (all rest)

def word (s : String) : Form := all (s.toList.map char)

def words (ss : List String) : Form := fun cs => ss.flatMap fun s => word s cs

/-- Whether a form takes the whole text. -/
def matchesAll (f : Form) (cs : List Char) : Bool := (f cs).any (·.isEmpty)

def digit : Form := one Text.isAsciiDigit

def sign : Form := optional (one fun c => c == '-' || c == '+')

def orBar (p : Char → Bool) : Char → Bool := fun c => p c || c == '_'

def isBinary (c : Char) : Bool := c == '0' || c == '1'
def isOctal (c : Char) : Bool := '0' ≤ c && c ≤ '7'
def isHex (c : Char) : Bool := (Text.hexValue? c).isSome

/-- A colon and a number below sixty. -/
def sixtieth : Form := all [char ':', optional (one fun c => '0' ≤ c && c ≤ '5'), digit]

def sixtieths : Form := fun cs => some sixtieth cs.length cs

def nonzero : Form := one fun c => Text.isAsciiDigit c && c != '0'

def digitsAndBars : Form := many (orBar Text.isAsciiDigit)

/-- Whole numbers: binary, octal after a zero, decimal, hexadecimal, and in base sixty. Bars between
digits mean nothing. -/
def whole : Form := seq sign fun cs =>
  all [word "0b", one (orBar isBinary), many (orBar isBinary)] cs
    ++ all [char '0', one (orBar isOctal), many (orBar isOctal)] cs
    ++ char '0' cs
    ++ all [nonzero, digitsAndBars] cs
    ++ all [word "0x", one (orBar isHex), many (orBar isHex)] cs
    ++ all [nonzero, digitsAndBars, sixtieths] cs

/-- An exponent, which needs a sign. -/
def exponent : Form :=
  all [one fun c => c == 'e' || c == 'E', one fun c => c == '-' || c == '+', digit,
    many Text.isAsciiDigit]

/-- Numbers with a point, in base ten or sixty, and those that are not finite. -/
def number : Form := fun cs =>
  all [sign, digit, digitsAndBars, char '.', digitsAndBars, optional exponent] cs
    ++ all [char '.', digit, digitsAndBars, optional exponent] cs
    ++ all [sign, digit, digitsAndBars, sixtieths, char '.', digitsAndBars] cs
    ++ all [sign, words [".inf", ".Inf", ".INF"]] cs
    ++ words [".nan", ".NaN", ".NAN"] cs

def twoDigits : Form := repeated digit 2
def oneOrTwoDigits : Form := seq digit (optional digit)
def blanks : Form := many fun c => c == ' ' || c == '\t'

/-- A distance from universal time, which is also written Z. -/
def zone : Form := either (char 'Z')
  (all [one fun c => c == '-' || c == '+', oneOrTwoDigits, optional (seq (char ':') twoDigits)])

def clock : Form :=
  all [oneOrTwoDigits, char ':', twoDigits, char ':', twoDigits,
    optional (seq (char '.') (many Text.isAsciiDigit)), optional (seq blanks zone)]

/-- Days, and days with a time after a T or blanks. -/
def time : Form := fun cs =>
  all [repeated digit 4, char '-', twoDigits, char '-', twoDigits] cs
    ++ all [repeated digit 4, char '-', oneOrTwoDigits, char '-', oneOrTwoDigits,
      either (one fun c => c == 'T' || c == 't') (seq (one fun c => c == ' ' || c == '\t') blanks),
      clock] cs

end Form

def truthWords : List (String × Bool) := [
  ("yes", true), ("no", false), ("true", true), ("false", false), ("on", true), ("off", false)]

/-- A word in small letters, in capitals, or with a capital first. -/
def spellings (word : String) : List String :=
  [word, word.map Char.toUpper, String.ofList ((word.toList.take 1).map Char.toUpper
    ++ word.toList.drop 1)]

/-- The kind that the text of a plain scalar shows. -/
def Kind.ofPlain (s : String) : Kind :=
  let cs := s.toList
  if truthWords.any fun w => (spellings w.1).contains s then truth
  else if Form.number.matchesAll cs then number
  else if Form.whole.matchesAll cs then whole
  else if s == "<<" then merge
  else if s == "" || s == "~" || (spellings "null").contains s then null
  else if Form.time.matchesAll cs then time
  else if s == "=" then default
  else text

end EditorBlocks.Yaml
