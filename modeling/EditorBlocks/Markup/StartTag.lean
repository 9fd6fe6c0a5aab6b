import EditorBlocks.Markup.EndTag
/-!
What start tags do, in each mode.
-/

namespace EditorBlocks.Markup

/-- A start tag: its name, its attributes, and whether it ends with a slash. -/
structure Opening where
  name : String
  attributes : List (String × String)
  selfClosing : Bool

def Opening.token (o : Opening) : Token := .startTag o.name o.attributes o.selfClosing

/-- Inserts the element as it stands. -/
def insertOpening (o : Opening) : Build Unit := insertHtml o.name o.attributes

def setTextMode (textMode : TextMode) : Build Unit :=
  modify fun b => { b with textMode := textMode }

/-- Opens an element whose text only its end tag closes. -/
def openText (o : Opening) (textMode : TextMode) : Build Unit := do
  insertOpening o
  modify fun b => { b with textMode := textMode, afterText := b.mode, mode := .text }

/-- Gives an open element the attributes that it does not have yet. -/
def mergeAttributes (i : Nat) (attributes : List (String × String)) : Build Unit :=
  withSketch fun s =>
    let tag := s.tag i
    let added := attributes.filter fun a => (tag.attribute? a.1).isNone
    s.setTag i { tag with attributes := tag.attributes ++ added }

def headNames : List String := [
  "base", "basefont", "bgsound", "command", "link", "meta", "script", "style", "title"]

/-- Elements of the head, wherever they stand. -/
def startHeadElement (o : Opening) : Build Unit := do
  if o.name == "script" then openText o .script
  else if o.name == "style" then openText o (.raw o.name)
  else if o.name == "title" then openText o (.escapable o.name)
  else insertEmpty o.name o.attributes

def closingBlockNames : List String := [
  "address", "article", "aside", "blockquote", "center", "details", "dir", "div", "dl",
  "fieldset", "figcaption", "figure", "footer", "header", "hgroup", "main", "menu", "nav", "ol",
  "p", "section", "summary", "ul"]

/-- The open item that a new list item closes: the nearest of its kind, unless a special element
other than a plain container is nearer. -/
def openItem? (b : Builder) (names : List String) : Option String :=
  let boundary := b.stack.find? fun i =>
    let name := (b.tagAt i).name
    names.contains name
      || (specialNames.contains (b.nameAt i) && !(["address", "div", "p"].contains name))
  (boundary.map fun i => (b.tagAt i).name).filter names.contains

def startListItem (o : Opening) : Build Unit := do
  match openItem? (← get) (if o.name == "li" then ["li"] else ["dt", "dd"]) with
  | some name => let _ ← endInMode name
  | none => pure ()
  if (← get).inScope .button "p" then
    let _ ← endInMode "p"
  insertOpening o

def startForm (o : Opening) : Build Unit := do
  if (← get).form.isNone then
    closeParagraph
    insertOpening o
    modify fun b => { b with form := b.stack.head? }

def startHeading (o : Opening) : Build Unit := do
  closeParagraph
  if headingNames.contains (← get).currentName then popOpen
  insertOpening o

/-- A link closes the link before it. -/
def startLink (o : Opening) : Build Unit := do
  match (← get).formattingNamed? "a" with
  | some old =>
    endFormatting "a" formattingRounds
    removeOpen old
    removeFormatting old
  | none => pure ()
  reconstructFormatting
  addFormatting o.name o.attributes

def startNobr (o : Opening) : Build Unit := do
  reconstructFormatting
  if (← get).inScope .plain "nobr" then
    endFormatting "nobr" formattingRounds
    reconstructFormatting
  addFormatting o.name o.attributes

/-- Inserts an element that has no content, in the open formatting. -/
def startEmpty (o : Opening) : Build Unit := do
  reconstructFormatting
  insertEmpty o.name o.attributes

def startForeign (vocabulary : Vocabulary) (o : Opening) : Build Unit := do
  let _ ← insertElement ⟨vocabulary, o.name, foreignAttributes vocabulary o.attributes⟩
  if o.selfClosing then popOpen

def startSelect (o : Opening) : Build Unit := do
  reconstructFormatting
  insertOpening o
  let inTable := [Mode.table, .caption, .columnGroup, .tableBody, .row, .cell].contains (← get).mode
  setMode (if inTable then .selectInTable else .select)

def startRubyPart (o : Opening) : Build Unit := do
  if (← get).inScope .plain "ruby" then closeImplied ""
  insertOpening o

def startOption (o : Opening) : Build Unit := do
  if (← get).currentName == "option" then
    let _ ← endInMode "option"
  reconstructFormatting
  insertOpening o

def startRule (o : Opening) : Build Unit := do
  closeParagraph
  insertEmpty o.name o.attributes

/-- The prompt of a search form that states none. -/
def defaultPrompt : String := "This is a searchable index. Enter search keywords: "

/-- An obsolete element that stands for a whole search form. -/
def startIndex (o : Opening) : Build Unit := do
  if (← get).form.isNone then
    startForm ⟨"form", o.attributes.filter (·.1 == "action"), false⟩
    startRule ⟨"hr", [], false⟩
    reconstructFormatting
    insertHtml "label" []
    bodyText ((Entries.find? "prompt" o.attributes).getD defaultPrompt).toList
    let kept := (Entries.erase "prompt" (Entries.erase "action" o.attributes))
    startEmpty ⟨"input", Entries.put "name" "isindex" kept, o.selfClosing⟩
    endNearest "label"
    startRule ⟨"hr", [], false⟩
    endForm

def ignoredStartNames : List String := [
  "caption", "col", "colgroup", "frame", "head", "tbody", "td", "tfoot", "th", "thead", "tr",
  "frameset"]

/-- Start tags in the body. -/
def startInBody (o : Opening) : Build (Option Token) := do
  let b ← get
  let name := o.name
  if name == "html" then mergeAttributes b.rootElement o.attributes
  else if headNames.contains name then startHeadElement o
  else if name == "body" then
    match b.stack.reverse.drop 1 with
    | body :: _ => if (b.tagAt body).name == "body" then mergeAttributes body o.attributes
    | [] => pure ()
  else if ignoredStartNames.contains name then pure ()
  else if closingBlockNames.contains name then closeParagraph; insertOpening o
  else if headingNames.contains name then startHeading o
  else if name == "pre" || name == "listing" then
    closeParagraph
    insertOpening o
    modify fun b => { b with dropNewline := true }
  else if name == "form" then startForm o
  else if name == "li" || name == "dd" || name == "dt" then startListItem o
  else if name == "plaintext" then closeParagraph; insertOpening o; setTextMode .plain
  else if name == "a" then startLink o
  else if name == "nobr" then startNobr o
  else if formattingNames.contains name then
    reconstructFormatting
    addFormatting name o.attributes
  else if name == "button" then
    if b.inScope .plain "button" then
      endBlock "button"
      return some o.token
    else
      reconstructFormatting
      insertOpening o
  else if name == "applet" || name == "marquee" || name == "object" then
    reconstructFormatting
    insertOpening o
    addMarker
  else if name == "xmp" then
    closeParagraph
    reconstructFormatting
    openText o (.raw name)
  else if name == "table" then
    closeParagraph
    insertOpening o
    setMode .table
  else if ["area", "br", "embed", "img", "keygen", "wbr", "input"].contains name then startEmpty o
  else if name == "image" then startEmpty { o with name := "img" }
  else if name == "param" || name == "source" || name == "track" then
    insertEmpty name o.attributes
  else if name == "hr" then startRule o
  else if name == "isindex" then startIndex o
  else if name == "textarea" then
    insertOpening o
    modify fun b => { b with textMode := .escapable name, dropNewline := true }
  else if name == "iframe" || name == "noembed" || name == "noframes" then openText o (.raw name)
  else if name == "select" then startSelect o
  else if name == "rp" || name == "rt" then startRubyPart o
  else if name == "option" || name == "optgroup" then startOption o
  else if name == "math" then reconstructFormatting; startForeign .math o
  else if name == "svg" then reconstructFormatting; startForeign .svg o
  else
    reconstructFormatting
    insertOpening o
  return none

/-- Spacing in the body. The line break just after the start tag of preformatted text is
dropped. -/
def bodySpace (data : List Char) : Build Unit := do
  let b ← get
  set { b with dropNewline := false }
  let atStart := ["pre", "listing", "textarea"].contains b.currentName
    && (b.sketch.children b.current).isEmpty
  let kept := if b.dropNewline && atStart && data.head? == some '\n' then data.drop 1 else data
  if !(b.dropNewline && kept.isEmpty) then
    reconstructFormatting
    insertText kept

def isHiddenInput (o : Opening) : Bool :=
  (Entries.find? "type" o.attributes).any fun t => Text.lowerAscii t == "hidden"

/-- Start tags between the parts of a table. -/
def startInTable (o : Opening) : Build (Option Token) := do
  let name := o.name
  if name == "html" then mergeAttributes (← get).rootElement o.attributes; return none
  else if name == "caption" then
    popBackTo ["table", "html"]
    addMarker
    insertOpening o
    setMode .caption
    return none
  else if name == "colgroup" then
    popBackTo ["table", "html"]
    insertOpening o
    setMode .columnGroup
    return none
  else if name == "col" then
    popBackTo ["table", "html"]
    insertHtml "colgroup" []
    setMode .columnGroup
    return some o.token
  else if rowGroupNames.contains name then
    popBackTo ["table", "html"]
    insertOpening o
    setMode .tableBody
    return none
  else if name == "td" || name == "th" || name == "tr" then
    popBackTo ["table", "html"]
    insertHtml "tbody" []
    setMode .tableBody
    return some o.token
  else if name == "table" then
    let _ ← endInMode "table"
    return some o.token
  else if name == "style" || name == "script" then startHeadElement o; return none
  else if name == "input" && isHiddenInput o then insertEmpty name o.attributes; return none
  else if name == "form" then
    if (← get).form.isNone then
      insertOpening o
      modify fun b => { b with form := b.stack.head? }
      popOpen
    return none
  else
    fostered (startInBody o)
    return none

def startInCaption (o : Opening) : Build (Option Token) := do
  if o.name == "html" then mergeAttributes (← get).rootElement o.attributes; return none
  else if ["caption", "col", "colgroup", "tbody", "td", "tfoot", "th", "thead",
      "tr"].contains o.name then
    let isOpen ← inTableScope "caption"
    endCaption
    return if isOpen then some o.token else none
  else startInBody o

def startInColumnGroup (o : Opening) : Build (Option Token) := do
  if o.name == "html" then mergeAttributes (← get).rootElement o.attributes; return none
  else if o.name == "col" then insertEmpty o.name o.attributes; return none
  else return if ← endColumnGroup then some o.token else none

/-- Opens a row in a group of rows. -/
def startRow (o : Opening) : Build Unit := do
  popBackTo ("html" :: rowGroupNames)
  insertOpening o
  setMode .row

def startInTableBody (o : Opening) : Build (Option Token) := do
  let name := o.name
  if name == "html" then mergeAttributes (← get).rootElement o.attributes; return none
  else if name == "tr" then startRow o; return none
  else if name == "td" || name == "th" then
    startRow ⟨"tr", [], false⟩
    return some o.token
  else if name == "caption" || name == "col" || name == "colgroup"
      || rowGroupNames.contains name then
    return if ← closeRowGroup then some o.token else none
  else startInTable o

def startInRow (o : Opening) : Build (Option Token) := do
  let name := o.name
  if name == "html" then mergeAttributes (← get).rootElement o.attributes; return none
  else if name == "td" || name == "th" then
    popBackTo ["tr", "html"]
    insertOpening o
    setMode .cell
    addMarker
    return none
  else if name == "caption" || name == "col" || name == "colgroup" || name == "tr"
      || rowGroupNames.contains name then
    return if ← closeRow then some o.token else none
  else startInTable o

def startInCell (o : Opening) : Build (Option Token) := do
  let name := o.name
  if name == "html" then mergeAttributes (← get).rootElement o.attributes; return none
  else if ["caption", "col", "colgroup", "tbody", "td", "tfoot", "th", "thead",
      "tr"].contains name then
    let isOpen := (← inTableScope "td") || (← inTableScope "th")
    closeCell
    return if isOpen then some o.token else none
  else startInBody o

def startInSelect (o : Opening) : Build (Option Token) := do
  let name := o.name
  if name == "html" then mergeAttributes (← get).rootElement o.attributes
  else if name == "option" then
    if (← get).currentName == "option" then popOpen
    insertOpening o
  else if name == "optgroup" then
    if (← get).currentName == "option" then popOpen
    if (← get).currentName == "optgroup" then popOpen
    insertOpening o
  else if name == "select" then endSelect
  else if name == "input" || name == "keygen" || name == "textarea" then
    if (← get).inScope .select "select" then
      endSelect
      return some o.token
  else if name == "script" then startHeadElement o
  return none

def startInSelectInTable (o : Opening) : Build (Option Token) := do
  if tablePartNames.contains o.name then
    endSelect
    return some o.token
  else startInSelect o

/-- The rule for a start tag in the present mode. -/
def startInMode (o : Opening) : Build (Option Token) := do
  match (← get).mode with
  | .body => startInBody o
  | .text => return none
  | .table => startInTable o
  | .tableText =>
    flushTableText
    return some o.token
  | .caption => startInCaption o
  | .columnGroup => startInColumnGroup o
  | .tableBody => startInTableBody o
  | .row => startInRow o
  | .cell => startInCell o
  | .select => startInSelect o
  | .selectInTable => startInSelectInTable o
  | .afterBody | .afterAfterBody =>
    if o.name == "html" then startInBody o
    else
      setMode .body
      return some o.token

/-- Whether a start tag leaves foreign content. -/
def breaksOut (o : Opening) : Bool :=
  breakoutNames.contains o.name
    || (o.name == "font" && o.attributes.any fun a => ["color", "face", "size"].contains a.1)

/-- Start tags in foreign content. -/
def startInForeign (o : Opening) : Build (Option Token) := do
  if breaksOut o then
    modify fun b =>
      { b with stack := b.stack.dropWhile fun i =>
          let tag := b.tagAt i
          tag.vocabulary != .html && !isHtmlIntegrationPoint tag && !isTextIntegrationPoint tag }
    return some o.token
  else
    let vocabulary := (← get).currentTag.vocabulary
    let name := if vocabulary == .svg then respell svgElementNames o.name else o.name
    startForeign vocabulary { o with name := name }
    return none

end EditorBlocks.Markup
