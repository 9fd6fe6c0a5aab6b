import EditorBlocks.Data.Entries
import EditorBlocks.Markup.Node
import EditorBlocks.Text.Lowercase
/-!
The names that tree construction knows: classes of elements, and the spelling of foreign names.
-/

namespace EditorBlocks.Markup

/-- An element by vocabulary and name. -/
abbrev Name := Vocabulary × String

def htmlNames (names : List String) : List Name := names.map (Vocabulary.html, ·)

def headingNames : List String := ["h1", "h2", "h3", "h4", "h5", "h6"]

/-- Elements that end the search for an element to close. -/
def specialNames : List Name := htmlNames [
  "address", "applet", "area", "article", "aside", "base", "basefont", "bgsound", "blockquote",
  "body", "br", "button", "caption", "center", "col", "colgroup", "command", "dd", "details",
  "dir", "div", "dl", "dt", "embed", "fieldset", "figure", "footer", "form", "frame", "frameset",
  "h1", "h2", "h3", "h4", "h5", "h6", "head", "header", "hr", "html", "iframe", "image", "img",
  "input", "isindex", "li", "link", "listing", "marquee", "menu", "meta", "nav", "noembed",
  "noframes", "noscript", "object", "ol", "p", "param", "plaintext", "pre", "script", "section",
  "select", "style", "table", "tbody", "td", "textarea", "tfoot", "th", "thead", "title", "tr",
  "ul", "wbr", "xmp"] ++ [(.svg, "foreignObject")]

def scopingNames : List Name :=
  htmlNames ["applet", "caption", "html", "marquee", "object", "table", "td", "th"] ++ [
    (.math, "mi"), (.math, "mo"), (.math, "mn"), (.math, "ms"), (.math, "mtext"),
    (.math, "annotation-xml"), (.svg, "foreignObject"), (.svg, "desc"), (.svg, "title")]

/-- The kinds of scope in which an open element is looked for. -/
inductive Scope
  | plain
  | button
  | listItem
  | table
  | select
  deriving DecidableEq, Repr

/-- Whether an element is the boundary of a scope. -/
def Scope.stopsAt (scope : Scope) (name : Name) : Bool :=
  match scope with
  | plain => scopingNames.contains name
  | button => scopingNames.contains name || name == (.html, "button")
  | listItem => scopingNames.contains name || name == (.html, "ol") || name == (.html, "ul")
  | table => name == (.html, "html") || name == (.html, "table")
  | select => !(name == (.html, "optgroup") || name == (.html, "option"))

def impliedEndNames : List String := ["dd", "dt", "li", "option", "optgroup", "p", "rp", "rt"]

/-- The elements inside which stray content is moved out of the table. -/
def tableContextNames : List String := ["table", "tbody", "tfoot", "thead", "tr"]

def isTextIntegrationPoint (tag : Tag) : Bool :=
  tag.vocabulary == .math && ["mi", "mo", "mn", "ms", "mtext"].contains tag.name

def isHtmlIntegrationPoint (tag : Tag) : Bool :=
  if tag.vocabulary == .math && tag.name == "annotation-xml" then
    match tag.attribute? "encoding" with
    | some encoding =>
      ["text/html", "application/xhtml+xml"].contains (Text.lowerAscii encoding)
    | none => false
  else tag.vocabulary == .svg && ["foreignObject", "desc", "title"].contains tag.name

/-- Start tags that end foreign content. -/
def breakoutNames : List String := [
  "b", "big", "blockquote", "body", "br", "center", "code", "dd", "div", "dl", "dt", "em", "embed",
  "h1", "h2", "h3", "h4", "h5", "h6", "head", "hr", "i", "img", "li", "listing", "menu", "meta",
  "nobr", "ol", "p", "pre", "ruby", "s", "small", "span", "strong", "strike", "sub", "sup",
  "table", "tt", "u", "ul", "var"]

/-- The mixed-case names of SVG elements. -/
def svgElementNames : List String := [
  "altGlyph", "altGlyphDef", "altGlyphItem", "animateColor", "animateMotion", "animateTransform",
  "clipPath", "feBlend", "feColorMatrix", "feComponentTransfer", "feComposite",
  "feConvolveMatrix", "feDiffuseLighting", "feDisplacementMap", "feDistantLight", "feFlood",
  "feFuncA", "feFuncB", "feFuncG", "feFuncR", "feGaussianBlur", "feImage", "feMerge",
  "feMergeNode", "feMorphology", "feOffset", "fePointLight", "feSpecularLighting", "feSpotLight",
  "feTile", "feTurbulence", "foreignObject", "glyphRef", "linearGradient", "radialGradient",
  "textPath"]

/-- The mixed-case names of SVG attributes. -/
def svgAttributeNames : List String := [
  "attributeName", "attributeType", "baseFrequency", "baseProfile", "calcMode", "clipPathUnits",
  "contentScriptType", "contentStyleType", "diffuseConstant", "edgeMode",
  "externalResourcesRequired", "filterRes", "filterUnits", "glyphRef", "gradientTransform",
  "gradientUnits", "kernelMatrix", "kernelUnitLength", "keyPoints", "keySplines", "keyTimes",
  "lengthAdjust", "limitingConeAngle", "markerHeight", "markerUnits", "markerWidth",
  "maskContentUnits", "maskUnits", "numOctaves", "pathLength", "patternContentUnits",
  "patternTransform", "patternUnits", "pointsAtX", "pointsAtY", "pointsAtZ", "preserveAlpha",
  "preserveAspectRatio", "primitiveUnits", "refX", "refY", "repeatCount", "repeatDur",
  "requiredExtensions", "requiredFeatures", "specularConstant", "specularExponent",
  "spreadMethod", "startOffset", "stdDeviation", "stitchTiles", "surfaceScale", "systemLanguage",
  "tableValues", "targetX", "targetY", "textLength", "viewBox", "viewTarget", "xChannelSelector",
  "yChannelSelector", "zoomAndPan"]

def mathAttributeNames : List String := ["definitionURL"]

/-- The spelling in a list of names that differs from a name in case only. -/
def respell (spellings : List String) (name : String) : String :=
  (spellings.find? fun s => Text.lowerAscii s == name).getD name

/-- Attributes of a foreign element that belong to a vocabulary of their own. -/
def qualifiedAttributeNames : List String := [
  "xlink:actuate", "xlink:arcrole", "xlink:href", "xlink:role", "xlink:show", "xlink:title",
  "xlink:type", "xml:base", "xml:lang", "xml:space", "xmlns", "xmlns:xlink"]

/-- Qualified attributes stand after the others. -/
def qualifiedLast (attributes : List (String × String)) : List (String × String) :=
  attributes.filter (fun a => !qualifiedAttributeNames.contains a.1)
    ++ attributes.filter (fun a => qualifiedAttributeNames.contains a.1)

/-- The attributes of a foreign element, spelled and ordered as its vocabulary asks. -/
def foreignAttributes (vocabulary : Vocabulary) (attributes : List (String × String)) :
    List (String × String) :=
  let spellings := match vocabulary with
    | .svg => svgAttributeNames
    | .math => mathAttributeNames
    | .html => []
  qualifiedLast (Entries.ofList (attributes.map fun a => (respell spellings a.1, a.2)))

end EditorBlocks.Markup
