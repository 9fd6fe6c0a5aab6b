import EditorBlocks.Attribute.Resolution
import EditorBlocks.Block.Filter
import EditorBlocks.Input.Registry
import EditorBlocks.Sourcing.Journal
/-!
Sourcing: completing the attributes of a forest of blocks from their HTML. A block that is not
admitted is left out with all blocks inside it.
-/

namespace EditorBlocks

/-- What the blocks of one parse are sourced by. -/
structure SourcingPlan where
  registry : Registry
  hooks : Hooks
  filter : BlockFilter
  postId : Option Int
  debug : Bool

/-- The warning about a block without a registered type. -/
def missingBlockWarning (name : Option String) : String :=
  "Block type \"" ++ name.getD "" ++ "\" is not server-side registered. "
    ++ "Sourced block attributes will not be available."

/-- A name as messages quote it. -/
def quotedName (name : Option String) : String := (name.map Text.quoted).getD "None"

namespace SourcingPlan

def context (plan : SourcingPlan) (name : Option String) : Log.Context := ⟨plan.postId, name⟩

/-- The decisions of the predicates on a block of a name, each starting from the one before. -/
def decision (name : Option String) (block : ParsedBlock) (number : Nat) (included : Bool) :
    List Predicate → Sourcing Bool
  | [] => pure included
  | predicate :: rest => do
    Sourcing.called (.decided number included name block)
    let answer ← Sourcing.ofExcept (predicate included name block)
    decision name block (number + 1) answer.isTruthy rest

/-- Whether a block is admitted: as the filter says, then as the predicates decide. -/
def isIncluded (plan : SourcingPlan) (block : ParsedBlock) : Sourcing Bool :=
  decision block.name block 0 (plan.filter.allows block.name) plan.hooks.predicates

/-- The work of the processors on a sourced block, each on the result of the one before. The name
they are given stays that of the parsed block, whatever the sourced one is called by now. -/
def process (name : Option String) (postId : Option Int) (block : ParsedBlock) (number : Nat)
    (sourced : Draft) : List Processor → Sourcing (Draft × ParsedBlock)
  | [] => pure (sourced, block)
  | processor :: rest => do
    Sourcing.called (.processed number sourced name postId block)
    let (sourced, attrs) ← Sourcing.sharing block.attrsAt (processor sourced name postId block)
    process name postId (block.withAttrsAt attrs) (number + 1) sourced rest

/-- Adds the values that definitions give to attributes. A sourced value replaces an explicit one;
without a source, a fallback is used where there is no explicit value. -/
def sourceEach (data : PostData) (scope : Scope) :
    List (String × AttributeDefinition) → List (String × Held) → Resolving (List (String × Held))
  | [], attributes => pure attributes
  | (name, definition) :: rest, attributes => do
    if definition.isSourced then
      match ← definition.resolve data scope with
      | some value => sourceEach data scope rest (Entries.put name value attributes)
      | none => sourceEach data scope rest attributes
    else
      match definition.rule.fallbackValue with
      | some value =>
        if Entries.has name attributes then sourceEach data scope rest attributes
        else sourceEach data scope rest (Entries.put name value attributes)
      | none => sourceEach data scope rest attributes

/-- The attributes of a block: the explicit ones in their order, then those that are added. -/
def sourceAttributes (data : PostData) (block : ParsedBlock)
    (definitions : List (String × AttributeDefinition)) : Resolving (List (String × Held)) :=
  sourceEach data (Scope.ofFragment block.html) definitions
    (block.attrs.map fun e => (e.1, .explicit [] e.1))

/-- The debug data of a block: the definitions of its type as registered, null members left out. -/
def debugData (type : Option BlockType) : List (String × Value) :=
  [("block_definition_attributes", (type.map fun t =>
    Value.object (AttributeDefinition.itemValues false Value.reduced t.attributes)).getD .null)]

/-- The debug data of a block if it is wanted. There is none of definitions nested too deep. -/
def shown (plan : SourcingPlan) (type : Option BlockType) :
    Except Fault (Option (List (String × Value))) :=
  if !plan.debug then .ok none
  else if type.all (·.isShowable) then .ok (some (debugData type))
  else .error .tooDeep

/-- Attributes in their stable shape: where there are none, there are empty ones. -/
def settled (sourced : Draft) : Draft :=
  sourced.withAttributes (some (sourced.attributes.getD []))

/-- Notes that the type of a block is not registered. -/
def noteMissing (plan : SourcingPlan) (name : Option String) : Sourcing Unit := do
  Sourcing.note (Log.record .warning .blocks
    ("Block type " ++ quotedName name ++ " is not registered") (plan.context name))
  Sourcing.warn (missingBlockWarning name)

mutual
/-- Sources one block. Besides the result, if the block is admitted, the parsed block is given as
hooks have left it. -/
def source (plan : SourcingPlan) : ParsedBlock → Sourcing (ParsedBlock × Option Draft)
  | .mk name attrs html inner => do
    let block := ParsedBlock.mk name attrs html inner
    if ← plan.isIncluded block then
      let type := name.bind plan.registry.find?
      if type.isNone then plan.noteMissing name
      let data : PostData := ⟨(← get).metadata, plan.postId⟩
      let definitions := (type.map (·.attributes)).getD []
      let attributes ← Sourcing.ofNoted (sourceAttributes data block definitions)
      let (innerParsed, innerSourced) ← sourceAll plan 0 inner
      let debug ← Sourcing.ofExcept (plan.shown type)
      let draft : Draft := .mk name (some attributes) innerSourced debug
      let (sourced, parsed) ←
        process name plan.postId (block.withInner innerParsed) 0 draft plan.hooks.processors
      return (parsed, some (settled sourced))
    else
      Sourcing.note (Log.record .debug .blocks
        ("Skipping block " ++ name.getD "None") (plan.context name))
      return (block, none)

/-- Sources sibling blocks in order, leaving out those that are not admitted. The first of them has
the given number. -/
def sourceAll (plan : SourcingPlan) (number : Nat) :
    List ParsedBlock → Sourcing (List ParsedBlock × List Draft)
  | [] => pure ([], [])
  | block :: rest => do
    let (parsed, sourced) ← source plan block
    let (parsedRest, sourcedRest) ← sourceAll plan (number + 1) rest
    return (parsed :: parsedRest, (sourced.map (Draft.within number)).toList ++ sourcedRest)
end

end SourcingPlan
end EditorBlocks
