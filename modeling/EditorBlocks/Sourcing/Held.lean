import EditorBlocks.Block.Parsed
import EditorBlocks.Block.Sourced
import EditorBlocks.Input.Metadata
/-!
Held values: attribute values while blocks are being sourced. A value may still be the very one that
a block's delimiter or the metadata holds, so that a change in place is seen by all who hold it.
-/

namespace EditorBlocks

inductive Held
  /-- a value of its own -/
  | own (value : Value)
  /-- an explicit attribute of the block at hand or, at a place, of a block inside it -/
  | explicit (place : List Nat) (name : String)
  /-- a value of the metadata -/
  | stored (post : Int) (key : String)
  | list (items : List Held)
  | record (members : List (String × Held))
  deriving Repr

/-- A block whose attribute values may be shared. -/
abbrev Draft := Block Held

/-- What held values refer to: the metadata, and the explicit attributes of the block at hand and of
those inside it, by their places. -/
structure Shared where
  metadata : Metadata
  attrs : PlacedAttrs

namespace Shared

/-- The metadata alone, with no block at hand. -/
def ofMetadata (metadata : Metadata) : Shared := ⟨metadata, fun _ => []⟩

def explicit (s : Shared) (place : List Nat) (name : String) : Value :=
  (Entries.find? name (s.attrs place)).getD .null

def putExplicit (s : Shared) (place : List Nat) (name : String) (value : Value) : Shared :=
  { s with attrs := fun p =>
      if p = place then Entries.put name value (s.attrs p) else s.attrs p }

def stored (s : Shared) (post : Int) (key : String) : Value :=
  (s.metadata.find? post key).getD .null

end Shared

namespace Held

mutual
/-- The value that is held. -/
def settle (s : Shared) : Held → Value
  | own value => value
  | explicit place name => s.explicit place name
  | stored post key => s.stored post key
  | list items => .list (settleItems s items)
  | record members => .object (settleMembers s members)

def settleItems (s : Shared) : List Held → List Value
  | [] => []
  | h :: rest => settle s h :: settleItems s rest

def settleMember (s : Shared) : String × Held → String × Value
  | (name, h) => (name, settle s h)

def settleMembers (s : Shared) : List (String × Held) → List (String × Value)
  | [] => []
  | m :: rest => settleMember s m :: settleMembers s rest
end

mutual
/-- The same value, as a block around refers to it in which the block at hand has a number. -/
def within (number : Nat) : Held → Held
  | own value => own value
  | explicit place name => explicit (number :: place) name
  | stored post key => stored post key
  | list items => list (withinItems number items)
  | record members => record (withinMembers number members)

def withinItems (number : Nat) : List Held → List Held
  | [] => []
  | h :: rest => within number h :: withinItems number rest

def withinMember (number : Nat) : String × Held → String × Held
  | (name, h) => (name, within number h)

def withinMembers (number : Nat) : List (String × Held) → List (String × Held)
  | [] => []
  | m :: rest => withinMember number m :: withinMembers number rest
end

/-- Adds an item at the end of a list in place. Other values do not change. -/
def append (s : Shared) (item : Value) : Held → Held × Shared
  | own (.list items) => (own (.list (items ++ [item])), s)
  | list items => (list (items ++ [own item]), s)
  | explicit place name =>
    match s.explicit place name with
    | .list items => (explicit place name, s.putExplicit place name (.list (items ++ [item])))
    | _ => (explicit place name, s)
  | stored post key =>
    match s.stored post key with
    | .list items =>
      (stored post key, { s with metadata := s.metadata.update post key (.list (items ++ [item])) })
    | _ => (stored post key, s)
  | h => (h, s)

end Held

/-- The block with the values that are held now. -/
def Draft.settle (s : Shared) (d : Draft) : SourcedBlock := d.mapValues (Held.settle s)

/-- The block among the blocks inside another one, by its number there. -/
def Draft.within (number : Nat) (d : Draft) : Draft := d.mapValues (Held.within number)

end EditorBlocks
