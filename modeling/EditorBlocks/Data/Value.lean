import EditorBlocks.Number.Binary64
/-!
Plain data: what data files, attributes, defaults and metadata hold.
-/

namespace EditorBlocks

/-- A calendar day. -/
structure Day where
  year : Nat
  month : Nat
  day : Nat
  deriving DecidableEq, Repr

/-- A time of day on a calendar day, with its distance from universal time in seconds if it has
one. -/
structure Moment where
  day : Day
  hour : Nat
  minute : Nat
  second : Nat
  microsecond : Nat
  offset : Option Int
  deriving DecidableEq, Repr

/-- Data of any shape. Mappings keep the order of their entries and may have keys of any scalar
kind; the last five kinds come from tagged or dated data files only. -/
inductive Value
  | null
  | bool (b : Bool)
  | int (n : Int)
  | float (x : Binary64)
  | str (s : String)
  | list (items : List Value)
  | map (entries : List (Value × Value))
  | date (day : Day)
  | moment (moment : Moment)
  | bytes (octets : List Nat)
  | set (members : List Value)
  | pair (first second : Value)
  deriving Repr

namespace Value

/-- The entries of an object whose members have names. -/
def object (members : List (String × Value)) : Value :=
  map (members.map fun m => (str m.1, m.2))

def isNull : Value → Bool
  | null => true
  | _ => false

theorem eq_null_of_isNull {v : Value} (h : v.isNull) : v = null := by
  cases v <;> first | rfl | cases h

/-- Whether the value counts as true: empty things, zeros and null do not. -/
def isTruthy : Value → Bool
  | null => false
  | bool b => b
  | int n => n != 0
  | float x => !x.isZero
  | str s => !s.isEmpty
  | list items => !items.isEmpty
  | map entries => !entries.isEmpty
  | bytes octets => !octets.isEmpty
  | set members => !members.isEmpty
  | date _ | moment _ | pair _ _ => true

/-- The number that a key stands for when keys are told apart: 1, 1.0 and true are one key. -/
def wholeKey? : Value → Option Int
  | bool b => some (if b then 1 else 0)
  | int n => some n
  | float x => x.toInt?
  | _ => none

/-- Whether two scalars are one key of a mapping. -/
def sameKey (a b : Value) : Bool :=
  match a.wholeKey?, b.wholeKey? with
  | some m, some n => m == n
  | _, _ =>
    match a, b with
    | null, null => true
    | str s, str t => s == t
    | float x, float y => x != .nan && x == y
    | date d, date e => d == e
    | moment m, moment n => m == n
    | bytes s, bytes t => s == t
    | _, _ => false

/-- Puts an entry under a scalar key; a key that is there keeps its place and spelling. -/
def putKey (k v : Value) : List (Value × Value) → List (Value × Value)
  | [] => [(k, v)]
  | (k', v') :: rest => if sameKey k' k then (k', v) :: rest else (k', v') :: putKey k v rest

/-- The members of an object, if every key is a name. -/
def names? : List (Value × Value) → Option (List (String × Value))
  | [] => some []
  | (str k, v) :: rest => (names? rest).map ((k, v) :: ·)
  | _ :: _ => none

mutual
/-- How deep data is nested. What has no items has depth one. -/
def depth : Value → Nat
  | list items | set items => depthOfItems items + 1
  | map entries => depthOfEntries entries + 1
  | pair a b => max (depth a) (depth b) + 1
  | _ => 1

def depthOfItems : List Value → Nat
  | [] => 0
  | v :: rest => max (depth v) (depthOfItems rest)

def depthOfEntry : Value × Value → Nat
  | (_, v) => depth v

def depthOfEntries : List (Value × Value) → Nat
  | [] => 0
  | e :: rest => max (depthOfEntry e) (depthOfEntries rest)
end

/-- The member of an object with this name. -/
def member? (name : String) : Value → Option Value
  | map entries =>
    (entries.find? fun e => match e.1 with | str k => k == name | _ => false).map (·.2)
  | _ => none

end Value
end EditorBlocks
