import EditorBlocks.Data.Checked
/-!
Sourced blocks: blocks whose attributes have been completed from their HTML. The kind of attribute
values is a parameter, so that values still shared with other data can be told apart.
-/

namespace EditorBlocks

/-- A block with its attributes, which may have been taken away altogether, the blocks inside and
perhaps some debug data. -/
inductive Block (α : Type)
  | mk (name : Option String) (attributes : Option (List (String × α))) (inner : List (Block α))
      (debug : Option (List (String × Value)))
  deriving Repr

/-- A block with plain data as attributes. -/
abbrev SourcedBlock := Block Value

namespace Block
variable {α β : Type}

def name : Block α → Option String
  | mk name _ _ _ => name

def attributes : Block α → Option (List (String × α))
  | mk _ attributes _ _ => attributes

def inner : Block α → List (Block α)
  | mk _ _ inner _ => inner

def debug : Block α → Option (List (String × Value))
  | mk _ _ _ debug => debug

def withAttributes (attributes : Option (List (String × α))) : Block α → Block α
  | mk name _ inner debug => mk name attributes inner debug

def withInner (inner : List (Block α)) : Block α → Block α
  | mk name attributes _ debug => mk name attributes inner debug

def withDebug (debug : Option (List (String × Value))) : Block α → Block α
  | mk name attributes inner _ => mk name attributes inner debug

mutual
/-- Replaces the attribute values at every depth. -/
def mapValues (f : α → β) : Block α → Block β
  | mk name attributes inner debug =>
    mk name (attributes.map fun es => es.map fun e => (e.1, f e.2)) (mapValuesOfList f inner) debug

def mapValuesOfList (f : α → β) : List (Block α) → List (Block β)
  | [] => []
  | b :: rest => mapValues f b :: mapValuesOfList f rest
end

end Block

namespace SourcedBlock

mutual
def check : Value → Checked SourcedBlock
  | .map es =>
    (fun name attributes inner debug => Block.mk name (some attributes) inner debug)
      <$> Checked.required "name" (Checked.optional Checked.text) es
      <*> Checked.memberOr [] "attributes" Checked.mapping es
      <*> (checkMember es).within (.member "inner_blocks")
      <*> Checked.memberOr none "debug" (Checked.optional Checked.mapping) es
  | _ => .refuse .notObject

/-- The member `inner_blocks` among the members of a block. -/
def checkMember : List (Value × Value) → Checked (List SourcedBlock)
  | [] => .valid []
  | e :: rest => (checkIf e).getD (checkMember rest)

def checkIf : Value × Value → Option (Checked (List SourcedBlock))
  | (.str "inner_blocks", .list vs) => some (checkFrom 0 vs)
  | (.str "inner_blocks", _) => some (.refuse .notList)
  | _ => none

def checkFrom (index : Nat) : List Value → Checked (List SourcedBlock)
  | [] => .valid []
  | v :: rest =>
    (fun b bs => b :: bs) <$> (check v).within (.item index) <*> checkFrom (index + 1) rest
end

def nameValue (name : Option String) : Value := (name.map Value.str).getD .null

mutual
/-- The stable form of a block: the attributes are always an object, inner blocks appear if there
are any, and debug data if it is there. -/
def toValue : SourcedBlock → Value
  | .mk name attributes inner debug =>
    .object ([("name", nameValue name), ("attributes", .object (attributes.getD []))]
      ++ (if inner.isEmpty then [] else [("innerBlocks", .list (toValues inner))])
      ++ (debug.map fun es => ("debug", Value.object es)).toList)

def toValues : List SourcedBlock → List Value
  | [] => []
  | b :: rest => toValue b :: toValues rest
end

mutual
/-- All fields under their inner names. -/
def fields (withNulls : Bool) : SourcedBlock → Value
  | .mk name attributes inner debug =>
    let named := [("name", nameValue name),
      ("attributes", (attributes.map Value.object).getD .null),
      ("inner_blocks", .list (fieldsOfList withNulls inner)),
      ("debug", (debug.map Value.object).getD .null)]
    .object (named.filter fun m => withNulls || !m.2.isNull)

def fieldsOfList (withNulls : Bool) : List SourcedBlock → List Value
  | [] => []
  | b :: rest => fields withNulls b :: fieldsOfList withNulls rest
end

end SourcedBlock
end EditorBlocks
