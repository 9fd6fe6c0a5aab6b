import EditorBlocks.Attribute.Definition
import EditorBlocks.Log.Noted
import EditorBlocks.Markup.Outline
import EditorBlocks.Markup.Scope
import EditorBlocks.Sourcing.Fault
import EditorBlocks.Sourcing.Held
/-!
Resolution: the value of an attribute as its definition finds it in a scope. What is not found is
replaced by the definition's fallback.
-/

namespace EditorBlocks

/-- What definitions are resolved against besides a scope. -/
structure PostData where
  metadata : Metadata
  postId : Option Int

/-- A step of resolution, which a fault stops. -/
abbrev Resolving := Log.Noted Fault

namespace Scope

/-- Narrows a scope and notes how many elements were found. -/
def narrowed (s : Scope) (selector : String) : Resolving Scope := do
  let found ← Log.Noted.ofExcept ((s.filter selector).mapError .selector)
  Log.Noted.note (Log.record .debug .selectors
    ("Selector " ++ Text.quoted selector ++ " matched " ++ toString found.count ++ " element(s)")
    .none)
  pure found

/-- Narrows a scope if there is a selector. -/
def narrowedBy (s : Scope) : Option String → Resolving Scope
  | some selector => s.narrowed selector
  | none => pure s

end Scope

namespace AttributeRule
open AttributeSource

def ownText (s : Option String) : Option Held := s.map fun text => .own (.str text)

/-- The outer HTML of each line that a selector finds, all in one. -/
def linesHtml (s : Scope) (selector : String) : Resolving Held := do
  let lines ← s.narrowed selector
  pure (.own (.str (String.join (lines.each.filterMap (·.outerHtml?)))))

/-- The content of the first element as a list: its text if it has no elements, otherwise the
outlines of its nodes. -/
def contentItems (s : Scope) : List Value :=
  if s.count = 0 then []
  else if s.children.count = 0 then (s.rawText?.map Value.str).toList
  else s.childNodes.filterMap (·.outline?)

/-- Notes that a post does not have a key. The number of the post is written for that. -/
def noteAbsent (post : Int) (key : String) : Resolving Unit := do
  let text ← Log.Noted.ofExcept (postText post)
  Log.Noted.note (Log.record .debug .attributes
    ("No meta " ++ Text.quoted key ++ " for post " ++ text) .none)

/-- A value of the metadata, if the post has one that is not null. -/
def metadataValue (data : PostData) (key : Option String) : Resolving (Option Held) :=
  match data.postId, key with
  | some post, some key =>
    match data.metadata.find? post key with
    | none => do
      noteAbsent post key
      pure none
    | some .null => pure none
    | some _ => pure (some (.stored post key))
  | _, _ => pure none

/-- What a rule finds by itself; queries find nothing of their own. -/
def find (rule : AttributeRule) (data : PostData) (s : Scope) : Resolving (Option Held) :=
  match rule.source with
  | none | some query => pure none
  | some attr | some property => do
    let s ← s.narrowedBy rule.selector
    pure (if s.count = 0 then none else ownText (rule.attributeName.bind s.attribute?))
  | some html => do
    let s ← s.narrowedBy rule.selector
    if s.count = 0 then pure none
    else match rule.multiline with
      | none => pure (ownText s.innerHtml?)
      | some selector => some <$> linesHtml s selector
  | some richText => do return ownText (← s.narrowedBy rule.selector).innerHtml?
  | some text => do return ownText (← s.narrowedBy rule.selector).text?
  | some tag => do return ownText (← s.narrowedBy rule.selector).tagName?
  | some raw => pure (ownText (s.innerHtml?.map Text.trim))
  | some metadata => metadataValue data rule.metaKey
  | some node => do
    let s ← s.narrowedBy rule.selector
    pure (((s.first?.bind (·.node?)).bind (·.outline?)).map .own)
  | some children => do
    return some (.own (.list (contentItems (← s.narrowedBy rule.selector))))

/-- A copy of the fallback, unless it is null. -/
def fallbackValue (rule : AttributeRule) : Option Held :=
  if rule.fallback.isNull then none else some (.own rule.fallback)

end AttributeRule

namespace AttributeDefinition

mutual
/-- The value of a definition in a scope; nothing stands for null. -/
def resolve (data : PostData) (s : Scope) : AttributeDefinition → Resolving (Option Held)
  | mk rule query => do
    let found ←
      if rule.source = some .query then do
        let matched ← s.narrowedBy rule.selector
        let records ← matched.each.mapM fun m => resolveQuery data m query
        pure (some (.list (records.map .record)))
      else rule.find data s
    pure (found.or rule.fallbackValue)

/-- The record that a query makes of one match. -/
def resolveQuery (data : PostData) (m : Scope) :
    Option (List (String × AttributeDefinition)) → Resolving (List (String × Held))
  | none => pure []
  | some items => resolveItems data m items

def resolveItems (data : PostData) (m : Scope) :
    List (String × AttributeDefinition) → Resolving (List (String × Held))
  | [] => pure []
  | item :: rest => do
    let first ← resolveItem data m item
    let others ← resolveItems data m rest
    pure (first.toList ++ others)

/-- The member of a record; what resolves to null is left out. -/
def resolveItem (data : PostData) (m : Scope) :
    String × AttributeDefinition → Resolving (Option (String × Held))
  | (name, definition) => do return (← resolve data m definition).map (name, ·)
end

end AttributeDefinition
end EditorBlocks
