import EditorBlocks.Selector.Control
import EditorBlocks.Selector.Error
/-!
Reading a list of selectors from text.
-/

namespace EditorBlocks

namespace Selector

/-- States that only a live document has. -/
def liveClasses : List String := [
  "active", "autofill", "buffering", "current", "focus", "focus-visible", "focus-within",
  "fullscreen", "future", "host", "hover", "local-link", "modal", "past", "paused",
  "picture-in-picture", "playing", "popover-open", "seeking", "stalled", "target",
  "target-within", "user-invalid", "user-valid", "visited", "volume-locked"]

/-- The conditions of a pseudo-class without arguments. -/
def plainClass? : String → Option (List Condition)
  | "root" => some [.root]
  | "scope" => some [.scope]
  | "empty" => some [.empty]
  | "defined" => some [.defined]
  | "link" | "any-link" => some [.link]
  | "checked" => some [.checked]
  | "default" => some [.isDefault]
  | "indeterminate" => some [.indeterminate]
  | "disabled" => some [.disabled]
  | "enabled" => some [.enabled]
  | "required" => some [.required]
  | "optional" => some [.optional]
  | "read-only" => some [.readOnly]
  | "read-write" => some [.readWrite]
  | "in-range" => some [.ranged true]
  | "out-of-range" => some [.ranged false]
  | "placeholder-shown" => some [.placeholderShown]
  | "open" => some [.isOpen]
  | "muted" => some [.muted]
  | "first-child" => some [.firstChild]
  | "last-child" => some [.lastChild]
  | "only-child" => some [.firstChild, .lastChild]
  | "first-of-type" => some [.firstOfType]
  | "last-of-type" => some [.lastOfType]
  | "only-of-type" => some [.firstOfType, .lastOfType]
  | name => if liveClasses.contains name then some [.never] else none

/-- Where a list stands: on its own, or in the brackets of a pseudo-class. Some brackets forgive
selectors that are left out. -/
inductive Setting
  | whole
  | strict
  | forgiving
  | relative
  deriving DecidableEq, Repr

/-- What is read of a list: its finished selectors, the selector to the left of the last combinator
with the relation to it, and the conditions read since, if any. `reached` is the position after the
last token. -/
structure Draft where
  finished : List Complex
  left : Option (Relation × Complex)
  chain : List (Relation × List Condition)
  lead : Relation
  conditions : Option (List Condition)
  htmlNames : Bool
  reached : Nat

def Draft.start (reached : Nat) : Draft := ⟨[], none, [], .descendant, none, false, reached⟩

def Draft.add (d : Draft) (new : List Condition) : Draft :=
  { d with conditions := some (d.conditions.getD [] ++ new) }

/-- The selector that the conditions make with what stands to the left. -/
def complete (conditions : List Condition) : Option (Relation × Complex) → Complex
  | none => .compound conditions
  | some (relation, other) => .related conditions relation other

/-- Conditions on an element and on those that are reached from it one after another. -/
def follow (conditions : List Condition) : List (Relation × List Condition) → Complex
  | [] => .compound conditions
  | (relation, next) :: rest => .related conditions relation (follow next rest)

def Combinator.backward? : Combinator → Option Relation
  | comma => none
  | descendant => some .ancestor
  | child => some .parent
  | adjacent => some .previousSibling
  | sibling => some .earlierSibling

def Combinator.forward? : Combinator → Option Relation
  | comma => none
  | descendant => some .descendant
  | child => some .child
  | adjacent => some .nextSibling
  | sibling => some .laterSibling

/-- What is found, or the flaw that takes its place. -/
abbrev Found (α : Type) := Except Flaw α

/-- A combinator between selectors. -/
def Draft.combine (setting : Setting) (d : Draft) (c : Combinator) : Found Draft :=
  match c.backward?, d.conditions with
  | none, some conditions =>
    .ok { d with finished := d.finished ++ [complete conditions d.left], left := none,
                 conditions := none }
  | some relation, some conditions =>
    .ok { d with left := some (relation, complete conditions d.left), conditions := none }
  | none, none =>
    if setting = .forgiving then
      .ok { d with finished := d.finished ++ [.compound [.never]], left := none }
    else .error (.loneCombinator c)
  | some _, none => .error (.loneCombinator c)

/-- A combinator in a list of selectors that begin at an element outside. -/
def Draft.combineForward (d : Draft) (c : Combinator) : Found Draft :=
  match c.forward?, d.conditions with
  | none, some conditions =>
    .ok { d with finished := d.finished ++ [follow [] (d.chain ++ [(d.lead, conditions)])],
                 chain := [], lead := .descendant, conditions := none }
  | none, none => .error (.loneCombinator c)
  | some relation, some conditions =>
    .ok { d with chain := d.chain ++ [(d.lead, conditions)], lead := relation, conditions := none }
  | some relation, none =>
    if d.lead = .descendant then .ok { d with lead := relation } else .error .repeatedCombinator

/-- The selectors of a list whose end is reached. -/
def Draft.finish (setting : Setting) (d : Draft) : Found (List Complex) :=
  match setting, d.conditions with
  | .relative, some conditions =>
    .ok (d.finished ++ [follow [] (d.chain ++ [(d.lead, conditions)])])
  | _, some conditions => .ok (d.finished ++ [complete conditions d.left])
  | .forgiving, none =>
    if d.finished.isEmpty || d.left.isNone then .ok (d.finished ++ [.compound [.never]])
    else .error .noSelector
  | _, none => .error .noSelector

/-- The pseudo-classes that take a list of selectors, and how the list is read. -/
def listSetting? : String → Option Setting
  | "is" | "where" => some .forgiving
  | "has" => some .relative
  | "not" | "matches" | "contains" | "-soup-contains" | "-soup-contains-own"
  | "current" | "host" | "host-context" => some .strict
  | _ => none

/-- The pseudo-classes that take arguments of their own. -/
def argumentClasses : List String :=
  ["dir", "lang", "nth-child", "nth-last-child", "nth-last-of-type", "nth-of-type"]

/-- The flaw of a pseudo-class that cannot stand as it does. -/
def classFlaw (name : String) : Flaw :=
  if (plainClass? name).isSome || (listSetting? name).isSome || argumentClasses.contains name then
    .misusedClass (":" ++ name)
  else .unknownClass (":" ++ name)

/-- The condition of a pseudo-class with a list of selectors. -/
def listCondition (name : String) (htmlNames : Bool) (alternatives : List Complex) : Condition :=
  if ["current", "host", "host-context"].contains name then .never
  else .oneOf (name == "not") htmlNames alternatives

/-- A selector text, of which the end is nothing but spacing. -/
structure Source where
  text : List Char
  tail : Nat

namespace Source

/-- The position where so much of the text is left. -/
def positionOf (source : Source) (rest : List Char) : Nat := source.text.length - rest.length

def refuse {α : Type} (source : Source) (flaw : Flaw) (position : Nat) : Except SelectorError α :=
  .error (.malformed (String.ofList source.text) flaw position)

def settle {α : Type} (source : Source) (position : Nat) : Found α → Except SelectorError α
  | .ok a => .ok a
  | .error flaw => source.refuse flaw position

/-- What is found, or a flaw of the place where `rest` begins. -/
def expect {α : Type} (source : Source) (rest : List Char) (flaw : Flaw) :
    Option α → Except SelectorError α
  | some a => .ok a
  | none => source.refuse flaw (source.positionOf rest)

end Source

/-- Reads tokens until the list ends: at its closing bracket, or at the end of the text. -/
def readList (source : Source) (setting : Setting) :
    (fuel : Nat) → Draft → List Char → Except SelectorError (Draft × List Char)
  | 0, d, _ => source.refuse .noSelector d.reached
  | fuel + 1, d, cs =>
    if cs.length ≤ source.tail then
      if setting = .whole then .ok (d, cs) else source.refuse .unclosed d.reached
    else do
      let (token, rest) ← source.expect cs (Flaw.ofCharacter (cs.headD ' ')) (Token.next? cs)
      let here := source.positionOf cs
      let passed (d : Draft) : Draft := { d with reached := source.positionOf rest }
      let continueWith (new : List Condition) :=
        readList source setting fuel (passed (d.add new)) rest
      match token with
      | .close =>
        if setting != .forgiving && d.conditions.isNone then source.refuse .noSelector here
        else if setting = .whole then source.refuse .strayClose here
        else .ok (d, rest)
      | .atRule => .error (.atRule here)
      | .pseudoElement => .error (.pseudoElement here)
      | .customClass name =>
        source.refuse (.undefinedClass (":" ++ name)) (source.positionOf rest)
      | .ampersand => continueWith [.scope]
      | .id name => continueWith [.id name]
      | .hasClass name => continueWith [.hasClass name]
      | .tag space name =>
        if d.conditions.isSome then source.refuse .tagInside here
        else continueWith [.tag space name]
      | .withAttribute test negated =>
        continueWith [if negated then .oneOf true false [.compound [.withAttribute test]]
          else .withAttribute test]
      | .containsText own texts => continueWith [.containsText own texts]
      | .language ranges => continueWith [.language ranges]
      | .direction direction =>
        readList source setting fuel
          { passed (d.add [.direction direction]) with htmlNames := true } rest
      | .nthOfType fromEnd cycle => continueWith [.nthOfType fromEnd cycle]
      | .nthChild fromEnd cycle false => continueWith [.nthChild fromEnd cycle false []]
      | .nthChild fromEnd cycle true => do
        let (inner, after) ← readList source .strict fuel (.start (source.positionOf rest)) rest
        let among ← source.settle inner.reached (inner.finish .strict)
        readList source setting fuel
          (passed (d.add [.nthChild fromEnd cycle inner.htmlNames among])) after
      | .pseudoClass name true => do
        let nested ← source.expect cs (classFlaw name) (listSetting? name)
        let (inner, after) ← readList source nested fuel (.start (source.positionOf rest)) rest
        let alternatives ← source.settle inner.reached (inner.finish nested)
        readList source setting fuel
          (passed (d.add [listCondition name inner.htmlNames alternatives])) after
      | .pseudoClass name false => do
        let conditions ← source.expect cs (classFlaw name) (plainClass? name)
        let d := if name == "defined" then { d with htmlNames := true } else d
        readList source setting fuel (passed (d.add conditions)) rest
      | .combinator c => do
        let d ← source.settle d.reached
          (if setting = .relative then d.combineForward c else d.combine setting c)
        readList source setting fuel (passed d) rest

/-- The number of characters of spacing at the end of a text. -/
def tailLength : List Char → Nat
  | [] => 0
  | c :: rest => if (afterSpacing (c :: rest)).isEmpty then rest.length + 1 else tailLength rest

end Selector

/-- The selectors that a text lists. -/
def SelectorList.read (text : String) : Except SelectorError SelectorList := do
  let cs := text.toList.map fun c => if c == '\x00' then '\uFFFD' else c
  let source : Selector.Source := ⟨cs, Selector.tailLength cs⟩
  let body := Selector.afterSpacing cs
  let (draft, _) ←
    Selector.readList source .whole (cs.length + 1) (.start (source.positionOf body)) body
  let alternatives ← source.settle draft.reached (draft.finish .whole)
  .ok ⟨draft.htmlNames, alternatives⟩

end EditorBlocks
