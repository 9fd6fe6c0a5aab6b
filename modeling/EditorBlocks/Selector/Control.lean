import EditorBlocks.Selector.Basic
/-!
States of links and form controls, said as conditions on elements and their attributes.
-/

namespace EditorBlocks.Selector
namespace Condition

/-- An element of this name in the vocabulary of HTML; for use where the prefix `html` is known. -/
def html (name : String) : Condition := tag (.named "html") name

def named (name : String) : Condition := tag .any name

def hasAttribute (name : String) : Condition := withAttribute ⟨.any, name, none⟩

/-- The attribute has this value; the value of `type` is compared without regard to case. -/
def attributeIs (name value : String) : Condition :=
  withAttribute ⟨.any, name, some ⟨.equals, value, name == "type"⟩⟩

def either (alternatives : List (List Condition)) : Condition :=
  oneOf false false (alternatives.map .compound)

def neither (alternatives : List (List Condition)) : Condition :=
  oneOf true false (alternatives.map .compound)

def withoutAttribute (name : String) : Condition := neither [[hasAttribute name]]

def namedOneOf (names : List String) : Condition := either (names.map fun name => [named name])

def typeOneOf (types : List String) : Condition :=
  either (types.map fun name => [attributeIs "type" name])

/-- One of the alternatives, in which the prefix `html` is known. -/
def inHtml (alternatives : List Complex) : Condition := oneOf false true alternatives

def shownInput : List Condition := [named "input", neither [[attributeIs "type" "hidden"]]]

def link : Condition :=
  inHtml [.compound [html "*", namedOneOf ["a", "area"], hasAttribute "href"]]

def checked : Condition :=
  inHtml [
    .compound [html "*",
      either [[named "input", attributeIs "type" "checkbox"],
        [named "input", attributeIs "type" "radio"]],
      hasAttribute "checked"],
    .compound [html "option", hasAttribute "selected"]]

def isDefault : Condition :=
  inHtml [
    .compound [checked],
    .related
      [html "*", namedOneOf ["button", "input"], attributeIs "type" "submit", defaultSubmit]
      .ancestor (.compound [html "form"])]

def indeterminate : Condition :=
  inHtml [
    .compound [html "input", attributeIs "type" "checkbox", hasAttribute "indeterminate"],
    .compound [html "input", attributeIs "type" "radio",
      either [[withoutAttribute "name"], [attributeIs "name" ""]], withoutAttribute "checked"],
    .compound [html "progress", withoutAttribute "value"],
    .compound [html "input", attributeIs "type" "radio", hasAttribute "name",
      neither [[attributeIs "name" ""]], withoutAttribute "checked", indeterminateRadio]]

/-- Controls that a disabled set of fields disables. -/
def fieldControl : Condition :=
  either (shownInput :: ["button", "select", "textarea", "fieldset"].map fun name => [named name])

def control : Condition :=
  either (shownInput
    :: ["button", "select", "textarea", "fieldset", "optgroup", "option"].map fun name =>
      [named name])

def firstOfType : Condition := nthOfType false ⟨0, 1, false⟩
def lastOfType : Condition := nthOfType true ⟨0, 1, false⟩
def firstChild : Condition := nthChild false ⟨0, 1, false⟩ false []
def lastChild : Condition := nthChild true ⟨0, 1, false⟩ false []

def disabled : Condition :=
  let offSet : Complex := .compound [html "fieldset", hasAttribute "disabled"]
  inHtml [
    .compound [html "*", control, hasAttribute "disabled"],
    .related [html "option"] .parent (.compound [html "optgroup", hasAttribute "disabled"]),
    .related [html "*", fieldControl] .parent offSet,
    .related [html "*", fieldControl] .ancestor
      (.related [html "*", neither [[named "legend", firstOfType]]] .parent offSet)]

def enabled : Condition :=
  inHtml [.compound [html "*", control, neither [[disabled]]]]

def required : Condition :=
  inHtml [.compound [html "*", namedOneOf ["input", "select", "textarea"],
    hasAttribute "required"]]

def optional : Condition :=
  inHtml [.compound [html "*", namedOneOf ["input", "select", "textarea"],
    withoutAttribute "required"]]

def placeholderShown : Condition :=
  let hint := [hasAttribute "placeholder", neither [[attributeIs "placeholder" ""]]]
  inHtml [
    .compound ([html "input",
      either [[withoutAttribute "type"],
        [typeOneOf ["", "text", "search", "url", "tel", "email", "password", "number"]]]]
      ++ hint ++ [either [[withoutAttribute "value"], [attributeIs "value" ""]]]),
    .compound ([html "textarea"] ++ hint ++ [textless])]

def readWrite : Condition :=
  let typed := either [[withoutAttribute "type"],
    [typeOneOf ["", "date", "datetime-local", "email", "month", "number", "password", "search",
      "tel", "text", "time", "url", "week"]]]
  inHtml [
    .compound [html "*", either [[named "textarea"], [named "input", typed]],
      neither [[hasAttribute "readonly"], [disabled]]],
    .compound [html "*",
      either [[attributeIs "contenteditable" ""],
        [withAttribute ⟨.any, "contenteditable", some ⟨.equals, "true", true⟩⟩]]]]

def readOnly : Condition := inHtml [.compound [html "*", neither [[readWrite]]]]

def ranged (inside : Bool) : Condition :=
  inHtml [.compound [html "input",
    typeOneOf ["date", "month", "week", "time", "datetime-local", "number", "range"],
    either [[hasAttribute "min"], [hasAttribute "max"]], valueRange inside]]

def isOpen : Condition :=
  inHtml [.compound [html "*", namedOneOf ["details", "dialog"], hasAttribute "open"]]

def muted : Condition :=
  inHtml [.compound [html "*", namedOneOf ["video", "audio"], hasAttribute "muted"]]

end Condition
end EditorBlocks.Selector
