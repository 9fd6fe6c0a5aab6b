import EditorBlocks.Markup.Builder
/-!
What end tags do, in each mode. A rule gives back the tag when the mode it has set is to treat it
again.
-/

namespace EditorBlocks.Markup

/-- Text in the body. -/
def bodyText (data : List Char) : Build Unit := do
  if data == ['\x00'] then return
  reconstructFormatting
  insertText data

/-- Leaves text in a table: spacing stays where it is, other text is moved before the table. -/
def flushTableText : Build Unit := do
  let b ← get
  let data := b.tableText.reverse.flatten
  if data.any (!Text.isSyntaxSpace ·) then
    setFostering true
    bodyText data
    setFostering false
  else if !data.isEmpty then insertText data
  modify fun b => { b with tableText := [], mode := b.afterTableText }

def endParagraph : Build Unit := do
  if (← get).inScope .button "p" then
    closeImplied "p"
    popThroughName "p"
  else
    insertHtml "p" []
    popOpen

/-- Closes a paragraph that a block cannot stand in. -/
def closeParagraph : Build Unit := do
  if (← get).inScope .button "p" then endParagraph

/-- Closes the nearest open element of this name, unless a special element is nearer. -/
def endNearest (name : String) : Build Unit := do
  let b ← get
  match b.stack.find? fun i => (b.tagAt i).name == name || specialNames.contains (b.nameAt i) with
  | some i =>
    if (b.tagAt i).name == name then
      closeImplied name
      popThrough fun _ j => j == i
  | none => pure ()

/-- Closes a formatting element, and reorders what is misnested in it. -/
def endFormatting (name : String) : (rounds : Nat) → Build Unit
  | 0 => pure ()
  | rounds + 1 => do
    let b ← get
    match b.formattingNamed? name with
    | none => endNearest name
    | some element =>
      if !b.stack.contains element then removeFormatting element
      else if !b.inScope .plain name then endNearest name
      else
        let inner := (b.stack.takeWhile (· != element)).reverse
        match inner.find? fun i => specialNames.contains (b.nameAt i) with
        | none =>
          popThrough fun _ i => i == element
          removeFormatting element
        | some block =>
          reorderAround element block
          endFormatting name rounds

/-- The rounds of reordering that one end tag may cause. -/
def formattingRounds : Nat := 8

def endBlock (name : String) : Build Unit := do
  if name == "pre" then modify fun b => { b with dropNewline := false }
  if (← get).inScope .plain name then
    closeImplied ""
    popThroughName name

def endForm : Build Unit := do
  let b ← get
  set { b with form := none }
  match b.form with
  | some form =>
    if b.elementInScope form then
      closeImplied ""
      removeOpen form
  | none => pure ()

def endListItem (name : String) : Build Unit := do
  if (← get).inScope (if name == "li" then .listItem else .plain) name then
    closeImplied name
    popThroughName name

def endHeading : Build Unit := do
  let b ← get
  if headingNames.any (b.inScope .plain) then
    closeImplied ""
    popThrough fun b i => headingNames.contains (b.tagAt i).name

def endObject (name : String) : Build Unit := do
  if (← get).inScope .plain name then
    closeImplied ""
    popThroughName name
    clearFormatting

def blockEndNames : List String := [
  "address", "article", "aside", "blockquote", "button", "center", "details", "dialog", "dir",
  "div", "dl", "fieldset", "figcaption", "figure", "footer", "header", "hgroup", "listing",
  "main", "menu", "nav", "ol", "pre", "section", "summary", "ul"]

def formattingNames : List String := [
  "a", "b", "big", "code", "em", "font", "i", "nobr", "s", "small", "strike", "strong", "tt", "u"]

/-- End tags in the body. -/
def endInBody (name : String) : Build (Option Token) := do
  if name == "body" || name == "html" then
    if (← get).inScope .plain "body" then
      setMode .afterBody
      if name == "html" then return some (.endTag name)
  else if blockEndNames.contains name then endBlock name
  else if name == "form" then endForm
  else if name == "p" then endParagraph
  else if name == "dd" || name == "dt" || name == "li" then endListItem name
  else if headingNames.contains name then endHeading
  else if formattingNames.contains name then endFormatting name formattingRounds
  else if name == "applet" || name == "marquee" || name == "object" then endObject name
  else if name == "br" then
    reconstructFormatting
    insertEmpty "br" []
  else endNearest name
  return none

/-- The mode that fits the innermost open element that decides one. -/
def modeFor (b : Builder) : List Nat → Mode
  | [] => .body
  | i :: rest =>
    if (b.tagAt i).vocabulary != .html then modeFor b rest
    else
      match (b.tagAt i).name with
      | "td" | "th" => .cell
      | "tr" => .row
      | "tbody" | "thead" | "tfoot" => .tableBody
      | "caption" => .caption
      | "table" => .table
      | "select" => .select
      | "colgroup" => .columnGroup
      | "head" | "body" | "html" => .body
      | _ => modeFor b rest

def resetMode : Build Unit := modify fun b => { b with mode := modeFor b b.stack }

/-- Runs a rule of the body while content is moved out of the table; what it would treat again is
lost. -/
def fostered (rule : Build (Option Token)) : Build Unit := do
  setFostering true
  let _ ← rule
  setFostering false

def rowGroupNames : List String := ["tbody", "tfoot", "thead"]

def inTableScope (name : String) : Build Bool := do return (← get).inScope .table name

def endTable : Build Unit := do
  if ← inTableScope "table" then
    closeImplied ""
    popThroughName "table"
    resetMode

/-- End tags between the parts of a table. -/
def endInTable (name : String) : Build (Option Token) := do
  if name == "table" then endTable
  else if ["body", "caption", "col", "colgroup", "html", "tbody", "td", "tfoot", "th", "thead",
      "tr"].contains name then pure ()
  else fostered (endInBody name)
  return none

def endCaption : Build Unit := do
  if ← inTableScope "caption" then
    closeImplied ""
    popThroughName "caption"
    clearFormatting
    setMode .table

def endInCaption (name : String) : Build (Option Token) := do
  if name == "caption" then endCaption; return none
  else if name == "table" then
    let isOpen ← inTableScope "caption"
    endCaption
    return if isOpen then some (.endTag name) else none
  else if ["body", "col", "colgroup", "html", "tbody", "td", "tfoot", "th", "thead",
      "tr"].contains name then return none
  else endInBody name

/-- Leaves a group of columns; says whether there was one. -/
def endColumnGroup : Build Bool := do
  if (← get).currentName == "html" then return false
  popOpen
  setMode .table
  return true

def endInColumnGroup (name : String) : Build (Option Token) := do
  if name == "colgroup" then
    let _ ← endColumnGroup
    return none
  else if name == "col" then return none
  else return if ← endColumnGroup then some (.endTag name) else none

def endRowGroup (name : String) : Build Unit := do
  if ← inTableScope name then
    popBackTo ("html" :: rowGroupNames)
    popOpen
    setMode .table

/-- Closes the open group of rows; says whether there was one. -/
def closeRowGroup : Build Bool := do
  let b ← get
  if rowGroupNames.any (b.inScope .table) then
    popBackTo ("html" :: rowGroupNames)
    endRowGroup (← get).currentName
    return true
  else return false

def endInTableBody (name : String) : Build (Option Token) := do
  if rowGroupNames.contains name then endRowGroup name; return none
  else if name == "table" then return if ← closeRowGroup then some (.endTag name) else none
  else if ["body", "caption", "col", "colgroup", "html", "td", "th", "tr"].contains name then
    return none
  else endInTable name

/-- Closes the open row; says whether there was one. -/
def closeRow : Build Bool := do
  if ← inTableScope "tr" then
    popBackTo ["tr", "html"]
    popOpen
    setMode .tableBody
    return true
  else return false

def endInRow (name : String) : Build (Option Token) := do
  if name == "tr" then
    let _ ← closeRow
    return none
  else if name == "table" then return if ← closeRow then some (.endTag name) else none
  else if rowGroupNames.contains name then
    if ← inTableScope name then
      let _ ← closeRow
      return some (.endTag name)
    else return none
  else if ["body", "caption", "col", "colgroup", "html", "td", "th"].contains name then return none
  else endInTable name

def endCell (name : String) : Build Unit := do
  if ← inTableScope name then
    closeImplied name
    popThroughName name
    clearFormatting
    setMode .row

/-- Closes the open cell. -/
def closeCell : Build Unit := do
  if ← inTableScope "td" then endCell "td"
  else if ← inTableScope "th" then endCell "th"

def endInCell (name : String) : Build (Option Token) := do
  if name == "td" || name == "th" then endCell name; return none
  else if ["body", "caption", "col", "colgroup", "html"].contains name then return none
  else if name == "table" || name == "tr" || rowGroupNames.contains name then
    if ← inTableScope name then
      closeCell
      return some (.endTag name)
    else return none
  else endInBody name

def endSelect : Build Unit := do
  if (← get).inScope .select "select" then
    popThroughName "select"
    resetMode

def endInSelect (name : String) : Build (Option Token) := do
  if name == "option" then
    if (← get).currentName == "option" then popOpen
  else if name == "optgroup" then
    let b ← get
    if b.currentName == "option" && ((b.stack.drop 1).head?.any fun i =>
        (b.tagAt i).name == "optgroup") then popOpen
    if (← get).currentName == "optgroup" then popOpen
  else if name == "select" then endSelect
  return none

def tablePartNames : List String := [
  "caption", "table", "tbody", "tfoot", "thead", "tr", "td", "th"]

def endInSelectInTable (name : String) : Build (Option Token) := do
  if tablePartNames.contains name then
    if ← inTableScope name then
      endSelect
      return some (.endTag name)
    else return none
  else endInSelect name

/-- The rule for an end tag in the present mode. -/
def endInMode (name : String) : Build (Option Token) := do
  match (← get).mode with
  | .body => endInBody name
  | .text =>
    popOpen
    modify fun b => { b with mode := b.afterText }
    return none
  | .table => endInTable name
  | .tableText =>
    flushTableText
    return some (.endTag name)
  | .caption => endInCaption name
  | .columnGroup => endInColumnGroup name
  | .tableBody => endInTableBody name
  | .row => endInRow name
  | .cell => endInCell name
  | .select => endInSelect name
  | .selectInTable => endInSelectInTable name
  | .afterBody =>
    if name == "html" then setMode .afterAfterBody; return none
    else setMode .body; return some (.endTag name)
  | .afterAfterBody =>
    setMode .body
    return some (.endTag name)

/-- The foreign element that an end tag closes, looking outward to the first element of HTML. -/
def foreignTarget? (b : Builder) (name : String) : List Nat → Option Nat
  | [] => none
  | i :: rest =>
    if Text.lowerAscii (b.tagAt i).name == name then some i
    else
      match rest with
      | [] => none
      | j :: _ => if (b.tagAt j).vocabulary == .html then none else foreignTarget? b name rest

/-- End tags in foreign content. -/
def endInForeign (name : String) : Build (Option Token) := do
  let b ← get
  match foreignTarget? b name b.stack with
  | some i =>
    if b.mode == .tableText then flushTableText
    popThrough fun _ j => j == i
    return none
  | none => endInMode name

end EditorBlocks.Markup
