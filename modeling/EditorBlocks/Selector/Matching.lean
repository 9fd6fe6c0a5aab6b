import EditorBlocks.Selector.Basic
import EditorBlocks.Selector.Directionality
import EditorBlocks.Selector.InputValue
import EditorBlocks.Selector.Language
import EditorBlocks.Text.Blank
import EditorBlocks.Text.Caseless
import EditorBlocks.Text.Occurrence
/-!
Matching: when an element meets a selector, and which elements inside a scope a list selects.
-/

namespace EditorBlocks.Selector
open Text (lowerAscii)

/-- The name by which the document itself is known as the parent of its root. -/
def documentName : String := "[document]"

/-- The name of an element or of the document, in small letters. -/
def nameOf (l : Location) : String :=
  match l.tag? with
  | some tag => lowerAscii tag.name
  | none => documentName

def vocabularyOf? (l : Location) : Option Vocabulary := l.tag?.map (·.vocabulary)

def isHtml (l : Location) : Bool := vocabularyOf? l == some .html

/-- Whether a location lies in the vocabulary asked for. The only prefix ever known is `html`. -/
def Space.admits (htmlNames : Bool) (l : Location) : Space → Bool
  | any => true
  | absent => (vocabularyOf? l).isNone
  | named name => htmlNames && name == "html" && isHtml l

/-- The words of a value. -/
def words (value : List Char) : List (List Char) :=
  (value.splitBy fun a b => Text.isSyntaxSpace a == Text.isSyntaxSpace b).filter fun word =>
    !(word.head?.any Text.isSyntaxSpace)

/-- Whether `wanted` is all of a value, which one line break may follow. -/
def fills (wanted value : List Char) : Bool := value == wanted || value == wanted ++ ['\n']

def Operator.holds (wanted value : List Char) : Operator → Bool
  | equals => fills wanted value
  | startsWith => wanted.isPrefixOf value
  | endsWith => wanted.isSuffixOf value || (wanted ++ ['\n']).isSuffixOf value
  | contains => Text.occursIn wanted value
  | hasWord => (words value).contains wanted
  | dashed => fills wanted value || (wanted ++ ['-']).isPrefixOf value

def Comparison.holds (c : Comparison) (value : String) : Bool :=
  let key (s : String) := if c.ignoreCase then Text.caseFolded s.toList else s.toList
  c.operator.holds (key c.value) (key value)

/-- The test is made on the first attribute of this name. -/
def AttributeTest.holds (test : AttributeTest) (l : Location) : Bool :=
  match test.space with
  | .named _ => false
  | _ =>
    let attributes := (l.tag?.map (·.attributes)).getD []
    match attributes.find? fun a => lowerAscii a.1 == lowerAscii test.name with
    | none => false
    | some (_, value) => test.comparison.all (·.holds value)

/-- Whether the place with this number, from one, is counted. -/
def Cycle.counts (c : Cycle) (place : Nat) : Bool :=
  let distance : Int := place - c.offset
  if !c.repeats || c.step == 0 then distance == 0
  else distance % c.step == 0 && 0 ≤ distance / c.step

/-- The number of an element among locations of which it is one, from either end. -/
def placeAmong (fromEnd : Bool) (l : Location) (all : List Location) : Nat :=
  let ordered := if fromEnd then all.reverse else all
  ordered.findIdx (·.same l) + 1

def isOpaque (node : Node) : Bool :=
  node.tag?.any fun tag => tag.vocabulary = .html && lowerAscii tag.name == "iframe"

/-- Whether a location holds nothing but white space and comments. What a frame holds does not
count. -/
def isEmpty (l : Location) : Bool :=
  l.node?.any isOpaque || l.childNodes.all fun
    | .element .. => false
    | .text data => data.toList.all Text.isSyntaxSpace
    | .comment _ => true

mutual
/-- The text of a node without that of frames. -/
def openTextChars (node : Node) : List Char :=
  match node with
  | .element tag children => if isOpaque (.element tag []) then [] else openTextCharsOfList children
  | .text data => data.toList
  | .comment _ => []

def openTextCharsOfList : List Node → List Char
  | [] => []
  | node :: rest => openTextChars node ++ openTextCharsOfList rest
end

def openText (l : Location) : List Char :=
  if l.node?.any isOpaque then [] else openTextCharsOfList l.childNodes

def ownTexts (l : Location) : List (List Char) :=
  if l.node?.any isOpaque then []
  else l.childNodes.filterMap fun | .text data => some data.toList | _ => none

/-- Whether one of the texts occurs in the content, or in one of its own pieces of text. -/
def holdsText (own : Bool) (texts : List String) (l : Location) : Bool :=
  if own then texts.any fun text => (ownTexts l).any (Text.occursIn text.toList)
  else texts.any fun text => Text.occursIn text.toList (openText l)

def isTextless (l : Location) : Bool :=
  let text := Node.textCharsOfList l.childNodes
  text == [] || text == ['\n']

/-- Names without a dash are those of known elements. -/
def isDefined (l : Location) : Bool := let name := nameOf l; !name.contains '-' || name.contains ':'

def isRoot (l : Location) : Bool := l.isElement && l.parent?.any fun p => p.parent?.isNone

def isForm (l : Location) : Bool := nameOf l == "form" && isHtml l

/-- The form around a control; without one the whole document takes its place. -/
def formOf (l : Location) : Location :=
  (l.ancestors.find? isForm).getD (l.ancestors.getLast?.getD l)

def attributeIs (name value : String) (l : Location) : Bool :=
  (l.attribute? name).any fun v => lowerAscii v == value

/-- Whether a control is the first of its form that submits it. -/
def isDefaultSubmit (l : Location) : Bool :=
  let controls := (formOf l).descendants.takeWhile fun e => nameOf e != "form"
  let submits (e : Location) : Bool :=
    ["input", "button"].contains (nameOf e) && attributeIs "type" "submit" e
  (controls.find? submits).any (·.same l)

/-- Whether no other radio button of the same name and form is checked. -/
def isIndeterminateRadio (l : Location) : Bool :=
  let form := formOf l
  !form.descendants.any fun e =>
    !e.same l && nameOf e == "input" && attributeIs "type" "radio" e
      && e.attribute? "name" == l.attribute? "name" && (e.attribute? "checked").isSome
      && (formOf e).same form

/-- The locations that stand in a relation to this one, nearest first. -/
def Relation.from (l : Location) : Relation → List Location
  | ancestor => l.ancestors
  | parent => l.parent?.toList
  | earlierSibling => l.elementsBefore
  | previousSibling => l.elementsBefore.take 1
  | descendant => l.descendants
  | child => l.children.filter (·.isElement)
  | laterSibling => l.elementsAfter
  | nextSibling => l.elementsAfter.take 1

mutual
/-- Whether a location meets a condition, given the scope that a list was asked of. -/
def Condition.holds (scope : Location) (htmlNames : Bool) (l : Location) : Condition → Bool
  | .never => false
  | .tag space name =>
    space.admits htmlNames l && (name == "*" || lowerAscii name == nameOf l)
  | .id value => l.attribute? "id" == some value
  | .hasClass name => (words ((l.attribute? "class").getD "").toList).contains name.toList
  | .withAttribute test => test.holds l
  | .root => isRoot l
  | .scope => l.same scope
  | .empty => isEmpty l
  | .defined => isDefined l
  | .textless => isTextless l
  | .nthChild fromEnd cycle inside among =>
    let inner := htmlNames || inside
    match among with
    | [] => cycle.counts (placeAmong fromEnd l l.elementSiblings)
    | first :: rest =>
      let selected (e : Location) := first.holds scope inner e || anyHolds scope inner e rest
      selected l && cycle.counts (placeAmong fromEnd l (l.elementSiblings.filter selected))
  | .nthOfType fromEnd cycle =>
    let alike (e : Location) := nameOf e == nameOf l && vocabularyOf? e == vocabularyOf? l
    cycle.counts (placeAmong fromEnd l (l.elementSiblings.filter alike))
  | .language ranges => ranges.any fun range => inLanguageRange range (languageOf l)
  | .direction direction => directionOf? l == some direction
  | .containsText own texts => holdsText own texts l
  | .valueRange inside => (l.tag?.bind isInRange?) == some inside
  | .defaultSubmit => isDefaultSubmit l
  | .indeterminateRadio => isIndeterminateRadio l
  | .oneOf negated inside alternatives =>
    anyHolds scope (htmlNames || inside) l alternatives != negated

def allHold (scope : Location) (htmlNames : Bool) (l : Location) : List Condition → Bool
  | [] => true
  | condition :: rest => condition.holds scope htmlNames l && allHold scope htmlNames l rest

def Complex.holds (scope : Location) (htmlNames : Bool) (l : Location) : Complex → Bool
  | .compound conditions => allHold scope htmlNames l conditions
  | .related conditions relation other =>
    allHold scope htmlNames l conditions
      && (relation.from l).any fun e => other.holds scope htmlNames e

def anyHolds (scope : Location) (htmlNames : Bool) (l : Location) : List Complex → Bool
  | [] => false
  | selector :: rest => selector.holds scope htmlNames l || anyHolds scope htmlNames l rest
end

end EditorBlocks.Selector

namespace EditorBlocks

/-- Whether an element is one that the list selects when it is asked of a scope. -/
def SelectorList.selects (list : SelectorList) (scope element : Location) : Bool :=
  Selector.anyHolds scope list.htmlNames element list.alternatives

/-- The elements inside a location that the list selects, in document order. -/
def Location.select (scope : Location) (list : SelectorList) : List Location :=
  scope.descendants.filter (list.selects scope)

end EditorBlocks
