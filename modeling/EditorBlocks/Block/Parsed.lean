import EditorBlocks.Data.Checked
/-!
Parsed blocks: what a tokenizer makes of post content.
-/

namespace EditorBlocks

/-- A block with its explicit attributes, its own HTML and the blocks inside. Free text between
blocks has no name. -/
inductive ParsedBlock
  | mk (name : Option String) (attrs : List (String × Value)) (html : String)
      (inner : List ParsedBlock)
  deriving Repr

/-- Explicit attributes by the place of a block: the numbers of the blocks to go into, one inside the
other. -/
abbrev PlacedAttrs := List Nat → List (String × Value)

namespace ParsedBlock

def name : ParsedBlock → Option String
  | mk name _ _ _ => name

def attrs : ParsedBlock → List (String × Value)
  | mk _ attrs _ _ => attrs

def html : ParsedBlock → String
  | mk _ _ html _ => html

def inner : ParsedBlock → List ParsedBlock
  | mk _ _ _ inner => inner

def withInner (inner : List ParsedBlock) : ParsedBlock → ParsedBlock
  | mk name attrs html _ => mk name attrs html inner

/-- The explicit attributes of a block and those inside it. Where there is no block there are none. -/
def attrsAt : ParsedBlock → PlacedAttrs
  | b, [] => b.attrs
  | b, n :: place => (b.inner[n]?.map fun c => attrsAt c place).getD []

/-- The explicit attributes of blocks next to each other and those inside them. -/
def attrsAmong (bs : List ParsedBlock) : PlacedAttrs
  | [] => []
  | n :: place => (bs[n]?.map fun b => b.attrsAt place).getD []

mutual
/-- Replaces the explicit attributes at every place. -/
def withAttrsAt (attrs : PlacedAttrs) : ParsedBlock → ParsedBlock
  | mk name _ html inner => mk name (attrs []) html (withAttrsAmong attrs 0 inner)

/-- Replaces the explicit attributes of blocks, of which the first has the given number. -/
def withAttrsAmong (attrs : PlacedAttrs) (number : Nat) : List ParsedBlock → List ParsedBlock
  | [] => []
  | b :: rest =>
    withAttrsAt (fun place => attrs (number :: place)) b :: withAttrsAmong attrs (number + 1) rest
end

/-- Free text with nothing but blanks. -/
def isWhitespace (b : ParsedBlock) : Bool := b.name.isNone && (Text.trim b.html).isEmpty

/-- Explicit attributes; an empty list and null stand for none. -/
def checkAttrs : Value → Checked (List (String × Value))
  | .null | .list [] => .valid []
  | v => Checked.mapping v

/-- A member under its outer name, or else under its inner one; complaints use the outer name. -/
def memberOr {α : Type} (default : α) (outer inner : String) (check : Value → Checked α)
    (es : List (Value × Value)) : Checked α :=
  match (Checked.memberOf? outer es).or (Checked.memberOf? inner es) with
  | some v => (check v).within (.member outer)
  | none => .valid default

mutual
/-- A block given as an object; members with no meaning are left out. -/
def check : Value → Checked ParsedBlock
  | .map es =>
    let nested := (checkMember "innerBlocks" es).or (checkMember "inner_blocks" es)
    mk <$> memberOr none "blockName" "name" (Checked.optional Checked.text) es
      <*> memberOr [] "attrs" "attrs" checkAttrs es
      <*> memberOr "" "innerHTML" "inner_html" Checked.text es
      <*> (nested.getD (.valid [])).within (.member "innerBlocks")
  | _ => .refuse .notObject

/-- The blocks under a name among the members of a block. -/
def checkMember (member : String) : List (Value × Value) → Option (Checked (List ParsedBlock))
  | [] => none
  | e :: rest => (checkIf member e).or (checkMember member rest)

def checkIf (member : String) : Value × Value → Option (Checked (List ParsedBlock))
  | (.str k, .list vs) => if k == member then some (checkFrom 0 vs) else none
  | (.str k, _) => if k == member then some (.refuse .notList) else none
  | _ => none

def checkFrom (index : Nat) : List Value → Checked (List ParsedBlock)
  | [] => .valid []
  | v :: rest =>
    (fun b bs => b :: bs) <$> (check v).within (.item index) <*> checkFrom (index + 1) rest
end

mutual
/-- The normal form of a block as data. -/
def toValue : ParsedBlock → Value
  | mk name attrs html inner =>
    .object [("blockName", (name.map Value.str).getD .null), ("attrs", .object attrs),
      ("innerHTML", .str html), ("innerBlocks", .list (toValues inner))]

def toValues : List ParsedBlock → List Value
  | [] => []
  | b :: rest => toValue b :: toValues rest
end

mutual
/-- All fields under their inner names. -/
def fields (withNulls : Bool) : ParsedBlock → Value
  | mk name attrs html inner =>
    let named := [("name", (name.map Value.str).getD .null), ("attrs", Value.object attrs),
      ("inner_html", .str html), ("inner_blocks", .list (fieldsOfList withNulls inner))]
    .object (named.filter fun m => withNulls || !m.2.isNull)

def fieldsOfList (withNulls : Bool) : List ParsedBlock → List Value
  | [] => []
  | b :: rest => fields withNulls b :: fieldsOfList withNulls rest
end

end ParsedBlock
end EditorBlocks
