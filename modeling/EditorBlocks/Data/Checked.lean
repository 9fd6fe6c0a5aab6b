import EditorBlocks.Data.Quoted
import EditorBlocks.Text.Blank
import EditorBlocks.Text.Digit
import EditorBlocks.Text.Lowercase
/-!
Checked data: reading plain data as something with a fixed shape. All complaints are collected, each
with its place inside the data.
-/

namespace EditorBlocks

/-- One step into data: to a member of an object or to an item of a list. -/
inductive DataStep
  | member (name : String)
  | item (index : Int)
  deriving DecidableEq, Repr

/-- What data can be refused for. -/
inductive DataProblem
  | notText
  | notList
  | notObject
  | notMapping
  | missing
  | notAllowed
  | notInteger
  | unreadableInteger
  | fractionalInteger
  | infiniteInteger
  | oversizedInteger
  | notBoolean
  | unreadableBoolean
  | unnamedMember
  deriving DecidableEq, Repr

structure Complaint where
  place : List DataStep
  problem : DataProblem
  deriving DecidableEq, Repr

inductive Checked (α : Type)
  | valid (a : α)
  | invalid (complaints : List Complaint)
  deriving Repr

namespace Checked
variable {α β : Type}

def map (f : α → β) : Checked α → Checked β
  | valid a => valid (f a)
  | invalid cs => invalid cs

/-- Both parts have to be valid; the complaints about the first come first. -/
def seq (f : Checked (α → β)) (a : Unit → Checked α) : Checked β :=
  match f, a () with
  | valid f, valid a => valid (f a)
  | valid _, invalid cs => invalid cs
  | invalid cs, valid _ => invalid cs
  | invalid cs, invalid ds => invalid (cs ++ ds)

instance : Applicative Checked where
  pure := valid
  map := map
  seq := seq

def refuse (problem : DataProblem) : Checked α := invalid [⟨[], problem⟩]

/-- Says where inside larger data the complaints arise. -/
def within (step : DataStep) : Checked α → Checked α
  | valid a => valid a
  | invalid cs => invalid (cs.map fun c => { c with place := step :: c.place })

def text : Value → Checked String
  | .str s => valid s
  | _ => refuse .notText

/-- Null stands for nothing. -/
def optional (check : Value → Checked α) : Value → Checked (Option α)
  | .null => valid none
  | v => (check v).map some

/-- Each item in turn, the first having this number. -/
def itemsFrom (check : Value → Checked α) (index : Nat) : List Value → Checked (List α)
  | [] => valid []
  | v :: rest =>
    (fun a as => a :: as) <$> (check v).within (.item index) <*> itemsFrom check (index + 1) rest

def list (check : Value → Checked α) : Value → Checked (List α)
  | .list vs => itemsFrom check 0 vs
  | _ => refuse .notList

/-- A key as a step: whole numbers count items, other keys are named as messages quote them. -/
def keyStep : Value → DataStep
  | .str s => .member s
  | .int n => .item n
  | .bool b => .item (if b then 1 else 0)
  | k => .member k.quoted

/-- The name that a key must be. -/
def key (k : Value) : Checked String := ((text k).within (.member "[key]")).within (keyStep k)

/-- A mapping from names to any data. -/
def entries : List (Value × Value) → Checked (List (String × Value))
  | [] => valid []
  | (k, v) :: rest => (fun k es => (k, v) :: es) <$> key k <*> entries rest

def mapping : Value → Checked (List (String × Value))
  | .map es => entries es
  | _ => refuse .notMapping

/-- A whole number written in ASCII digits, perhaps with zeros after a point. -/
def integerText? (s : String) : Option Int :=
  let cs := Text.trimNumber s.toList
  let whole := cs.takeWhile (· != '.')
  let fraction := (cs.dropWhile (· != '.')).drop 1
  if whole.all (·.toNat < 128) && fraction.all (· == '0')
      && (whole.length == cs.length || !fraction.isEmpty) then
    Text.signedDigits? whole
  else none

/-- A whole number, or anything with a whole value. -/
def integer : Value → Checked Int
  | .int n => valid n
  | .bool b => valid (if b then 1 else 0)
  | .str s =>
    match integerText? s with
    | some n => valid n
    | none => refuse .unreadableInteger
  | .float .nan | .float (.infinity _) => refuse .infiniteInteger
  | .float x =>
    match x.toInt? with
    | some n => if n.natAbs < Nat.pow 2 63 then valid n else refuse .oversizedInteger
    | none => refuse .fractionalInteger
  | _ => refuse .notInteger

def booleanText? (s : String) : Option Bool :=
  let s := Text.lowerAscii s
  if ["1", "on", "t", "true", "y", "yes"].contains s then some true
  else if ["0", "off", "f", "false", "n", "no"].contains s then some false
  else none

def boolean : Value → Checked Bool
  | .bool b => valid b
  | .int n => if n = 0 then valid false else if n = 1 then valid true else refuse .unreadableBoolean
  | .float x =>
    match x.toInt? with
    | some 0 => valid false
    | some 1 => valid true
    | some _ => refuse .unreadableBoolean
    | none => refuse .notBoolean
  | .str s =>
    match booleanText? s with
    | some b => valid b
    | none => refuse .unreadableBoolean
  | _ => refuse .notBoolean

/-- The member of an object with this name. -/
def memberOf? (name : String) (es : List (Value × Value)) : Option Value :=
  (Value.map es).member? name

/-- A member that may be left out. -/
def memberOr (default : α) (name : String) (check : Value → Checked α) (es : List (Value × Value)) :
    Checked α :=
  match memberOf? name es with
  | some v => (check v).within (.member name)
  | none => valid default

/-- A member that has to be there. -/
def required (name : String) (check : Value → Checked α) (es : List (Value × Value)) : Checked α :=
  match memberOf? name es with
  | some v => (check v).within (.member name)
  | none => (refuse .missing : Checked α).within (.member name)

end Checked
end EditorBlocks
