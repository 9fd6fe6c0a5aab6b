import EditorBlocks.Data.Checked
import EditorBlocks.Data.Entries
import EditorBlocks.Data.Reduced
/-!
Definitions of block attributes: where the value of an attribute is found in a block's HTML.
-/

namespace EditorBlocks

/-- Where the value of an attribute comes from. -/
inductive AttributeSource
  | attr
  | property
  | html
  | richText
  | text
  | tag
  | raw
  | query
  | metadata
  | node
  | children
  deriving DecidableEq, Repr

namespace AttributeSource

def all : List AttributeSource :=
  [attr, property, html, richText, text, tag, raw, query, metadata, node, children]

def name : AttributeSource → String
  | attr => "attribute"
  | property => "property"
  | html => "html"
  | richText => "rich-text"
  | text => "text"
  | tag => "tag"
  | raw => "raw"
  | query => "query"
  | metadata => "meta"
  | node => "node"
  | children => "children"

def ofName? (s : String) : Option AttributeSource := all.find? fun source => source.name == s

def check : Value → Checked AttributeSource
  | .str s =>
    match ofName? s with
    | some source => .valid source
    | none => .refuse .notAllowed
  | _ => .refuse .notAllowed

theorem ofName?_name (source : AttributeSource) : ofName? source.name = some source := by
  cases source <;> decide

end AttributeSource

/-- What a definition says itself. `fallback` stands in for a value that is not found; `extras` are
the members that have no meaning here, kept as they are. -/
structure AttributeRule where
  source : Option AttributeSource
  selector : Option String
  attributeName : Option String
  multiline : Option String
  metaKey : Option String
  fallback : Value
  extras : List (String × Value)
  deriving Repr

/-- A rule, and for a query the definitions of the members of its records. -/
inductive AttributeDefinition
  | mk (rule : AttributeRule) (query : Option (List (String × AttributeDefinition)))
  deriving Repr

namespace AttributeDefinition

def rule : AttributeDefinition → AttributeRule
  | mk rule _ => rule

def query : AttributeDefinition → Option (List (String × AttributeDefinition))
  | mk _ query => query

/-- An attribute without a source is written in the block itself. -/
def isSourced (d : AttributeDefinition) : Bool := d.rule.source.isSome

def knownMembers : List String :=
  ["source", "selector", "attribute", "multiline", "meta", "default", "query"]

/-- The members with no meaning, which need names. -/
def checkExtras : List (Value × Value) → Checked (List (String × Value))
  | [] => .valid []
  | (.str k, v) :: rest =>
    if knownMembers.contains k then checkExtras rest
    else (fun es => (k, v) :: es) <$> checkExtras rest
  | (k, _) :: rest =>
    (fun (_ : Unit) es => es)
      <$> (Checked.refuse .unnamedMember : Checked Unit).within (Checked.keyStep k)
      <*> checkExtras rest

mutual
/-- A definition given as an object. -/
def check : Value → Checked AttributeDefinition
  | .map es =>
    (fun source selector attributeName multiline metaKey fallback query extras =>
        mk ⟨source, selector, attributeName, multiline, metaKey, fallback, extras⟩ query)
      <$> Checked.memberOr none "source" (Checked.optional AttributeSource.check) es
      <*> Checked.memberOr none "selector" (Checked.optional Checked.text) es
      <*> Checked.memberOr none "attribute" (Checked.optional Checked.text) es
      <*> Checked.memberOr none "multiline" (Checked.optional Checked.text) es
      <*> Checked.memberOr none "meta" (Checked.optional Checked.text) es
      <*> .valid ((Checked.memberOf? "default" es).getD .null)
      <*> (checkQueryMember es).within (.member "query")
      <*> checkExtras es
  | _ => .refuse .notObject

/-- The member `query` among the members of a definition. -/
def checkQueryMember : List (Value × Value) → Checked (Option (List (String × AttributeDefinition)))
  | [] => .valid none
  | e :: rest => (checkIfQuery e).getD (checkQueryMember rest)

def checkIfQuery :
    Value × Value → Option (Checked (Option (List (String × AttributeDefinition))))
  | (.str "query", .null) => some (.valid none)
  | (.str "query", .map es) => some ((checkItems es).map some)
  | (.str "query", _) => some (.refuse .notMapping)
  | _ => none

/-- Definitions under their names. -/
def checkItems : List (Value × Value) → Checked (List (String × AttributeDefinition))
  | [] => .valid []
  | e :: rest => (fun e es => e :: es) <$> checkItem e <*> checkItems rest

def checkItem : Value × Value → Checked (String × AttributeDefinition)
  | (k, v) => (fun k v => (k, v)) <$> Checked.key k <*> (check v).within (Checked.keyStep k)
end

def optionalText : Option String → Value
  | some s => .str s
  | none => .null

mutual
/-- A definition as an object: the members with a meaning, then the others. Null members can be
left out, and data reduced to what JSON can hold. -/
def toValue (withNulls : Bool) (data : Value → Value) : AttributeDefinition → Value
  | mk r query =>
    let members := [
      ("source", optionalText (r.source.map (·.name))),
      ("selector", optionalText r.selector),
      ("attribute", optionalText r.attributeName),
      ("multiline", optionalText r.multiline),
      ("meta", optionalText r.metaKey),
      ("default", r.fallback),
      ("query", queryValue withNulls data query)] ++ r.extras
    .object ((members.filter fun m => withNulls || !m.2.isNull).map fun m =>
      (m.1, if m.1 == "query" then m.2 else data m.2))

def queryValue (withNulls : Bool) (data : Value → Value) :
    Option (List (String × AttributeDefinition)) → Value
  | none => .null
  | some items => .object (itemValues withNulls data items)

def itemValues (withNulls : Bool) (data : Value → Value) :
    List (String × AttributeDefinition) → List (String × Value)
  | [] => []
  | item :: rest => itemValue withNulls data item :: itemValues withNulls data rest

def itemValue (withNulls : Bool) (data : Value → Value) :
    String × AttributeDefinition → String × Value
  | (name, d) => (name, toValue withNulls data d)
end

/-- How deep the data of a rule is nested. Null members count for nothing, since they are not
shown. -/
def dataDepth (rule : AttributeRule) : Nat :=
  let members := (("default", rule.fallback) :: rule.extras).filter fun m => !m.2.isNull
  (members.map (·.2.depth)).foldr max 0

mutual
/-- How deep a definition is nested, with its data and the definitions of its query. -/
def depth : AttributeDefinition → Nat
  | mk rule query => max (dataDepth rule) (queryDepth query) + 1

def queryDepth : Option (List (String × AttributeDefinition)) → Nat
  | none => 0
  | some items => itemsDepth items

def itemsDepth : List (String × AttributeDefinition) → Nat
  | [] => 0
  | item :: rest => max (itemDepth item) (itemsDepth rest)

def itemDepth : String × AttributeDefinition → Nat
  | (_, d) => depth d
end

/-- Definitions nested deeper than this are not shown. -/
def depthLimit : Nat := 255

end AttributeDefinition

/-- A block type: its name and the definitions of its attributes. -/
structure BlockType where
  name : String
  attributes : List (String × AttributeDefinition)
  deriving Repr

namespace BlockType

def checkAttributes : Value → Checked (List (String × AttributeDefinition))
  | .map es => AttributeDefinition.checkItems es
  | _ => .refuse .notMapping

def check : Value → Checked BlockType
  | .map es =>
    mk <$> Checked.required "name" Checked.text es
      <*> Checked.memberOr [] "attributes" checkAttributes es
  | _ => .refuse .notObject

def toValue (withNulls : Bool) (data : Value → Value) (t : BlockType) : Value :=
  .object [("name", .str t.name),
    ("attributes", .object (AttributeDefinition.itemValues withNulls data t.attributes))]

/-- Whether no definition of a type is nested too deep to be shown. -/
def isShowable (t : BlockType) : Bool :=
  t.attributes.all fun item => item.2.depth ≤ AttributeDefinition.depthLimit

end BlockType
end EditorBlocks
