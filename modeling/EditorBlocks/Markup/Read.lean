import EditorBlocks.Markup.StartTag
import EditorBlocks.Text.Lines
/-!
Reading a fragment of HTML as the body of a document. Main definition: `Document.ofFragment`.
-/

namespace EditorBlocks.Markup

/-- Text that is not spacing alone. -/
def textInMode (data : List Char) : Build (Option Token) := do
  match (← get).mode with
  | .body | .caption | .cell => bodyText data; return none
  | .text => insertText data; return none
  | .table | .tableBody | .row =>
    modify fun b => { b with
      afterTableText := b.mode
      mode := .tableText
      tableText := if data == ['\x00'] then [] else [data] }
    return none
  | .tableText =>
    if data != ['\x00'] then modify fun b => { b with tableText := data :: b.tableText }
    return none
  | .columnGroup => return if ← endColumnGroup then some (.text data) else none
  | .select | .selectInTable =>
    if data != ['\x00'] then insertText data
    return none
  | .afterBody | .afterAfterBody =>
    setMode .body
    return some (.text data)

def spaceInMode (data : List Char) : Build (Option Token) := do
  match (← get).mode with
  | .body | .afterAfterBody => bodySpace data
  | .table | .tableBody | .row =>
    modify fun b => { b with afterTableText := b.mode, mode := .tableText, tableText := [data] }
  | .tableText => modify fun b => { b with tableText := data :: b.tableText }
  | _ => insertText data
  return none

def commentInMode (data : String) : Build (Option Token) := do
  let b ← get
  match b.mode with
  | .tableText =>
    flushTableText
    return some (.comment data)
  | .afterBody => insertComment data b.rootElement; return none
  | .afterAfterBody => insertComment data 0; return none
  | _ => insertComment data b.current; return none

/-- Whether a token is foreign content: the current element is foreign, and it is no point at
which this token is taken as HTML. -/
def isForeign (tag : Tag) (token : Token) : Bool :=
  let htmlToken := match token with
    | .startTag .. | .text _ | .space _ => true
    | _ => false
  let textToken := match token with
    | .startTag name _ _ => name != "mglyph" && name != "malignmark"
    | .text _ | .space _ => true
    | _ => false
  let svgToken := match token with
    | .startTag name _ _ => name == "svg"
    | _ => false
  tag.vocabulary != .html
    && !(isTextIntegrationPoint tag && textToken)
    && !(tag.vocabulary == .math && tag.name == "annotation-xml" && svgToken)
    && !(isHtmlIntegrationPoint tag && htmlToken)

/-- Treats one token; gives it back when it is to be treated again. -/
def treat (token : Token) : Build (Option Token) := do
  let b ← get
  if isForeign b.currentTag token then
    match token with
    | .text data =>
      insertText (if data == ['\x00'] then ['\uFFFD'] else data)
      return none
    | .space data => insertText data; return none
    | .startTag name attributes selfClosing => startInForeign ⟨name, attributes, selfClosing⟩
    | .endTag name => endInForeign name
    | .comment data => insertComment data b.current; return none
  else
    match token with
    | .text data => textInMode data
    | .space data => spaceInMode data
    | .startTag name attributes selfClosing => startInMode ⟨name, attributes, selfClosing⟩
    | .endTag name => endInMode name
    | .comment data => commentInMode data

/-- Treats a token until it is used up, at most `rounds` times. -/
def treatAll : (rounds : Nat) → Token → Build Unit
  | 0, _ => pure ()
  | rounds + 1, token => do
    match ← treat token with
    | some token => treatAll rounds token
    | none => pure ()

/-- Each round but a few closes an element or leaves a mode. -/
def treatToken (token : Token) : Build Unit := do
  treatAll (2 * (← get).stack.length + 16) token

/-- Reads tokens to the end of the text; every token takes a character. -/
def readTokens : (room : Nat) → List Char → Build Unit
  | 0, _ => pure ()
  | room + 1, cs => do
    if cs.isEmpty then
      if (← get).mode == .tableText then flushTableText
    else
      let b ← get
      let (token, textMode, rest) :=
        nextToken (b.currentTag.vocabulary != .html) b.textMode cs
      setTextMode textMode
      match token with
      | some token => treatToken token
      | none => pure ()
      readTokens room rest

/-- The state inside the body of an empty document. -/
def Builder.initial : Builder :=
  let (sketch, root) := Sketch.empty.add (.element ⟨.html, "html", []⟩)
  let (sketch, head) := sketch.add (.element ⟨.html, "head", []⟩)
  let (sketch, body) := sketch.add (.element ⟨.html, "body", []⟩)
  { sketch := ((sketch.append 0 root).append root head).append root body
    stack := [body, root]
    formatting := []
    form := none
    mode := .body
    afterText := .body
    afterTableText := .body
    tableText := []
    fostering := false
    dropNewline := false
    textMode := .markup }

end EditorBlocks.Markup

namespace EditorBlocks.Document
open Markup

/-- The document whose body holds this HTML. The end tags that follow it close what is open, and
belong to an element that is closed by its own end tag only. -/
def ofFragment (html : String) : Document :=
  let cs := Text.unifyBreaks (html ++ "</body></html>").toList
  let ((), b) := (readTokens (cs.length + 1) cs).run Builder.initial
  b.sketch.toDocument

end EditorBlocks.Document
