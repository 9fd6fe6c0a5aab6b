import EditorBlocks.Data.Entries
import EditorBlocks.Markup.Reference
import EditorBlocks.Text.Lowercase
/-!
Tokens of HTML text. The reader takes one token at a time, since the tree under construction
decides how the text after a tag is read.
-/

namespace EditorBlocks.Markup

/-- Spacing is told apart from other text, because tables and preformatted text treat it alone. -/
inductive Token
  | text (data : List Char)
  | space (data : List Char)
  | startTag (name : String) (attributes : List (String × String)) (selfClosing : Bool)
  | endTag (name : String)
  | comment (data : String)
  deriving Repr

/-- How text is read: as markup, as text of an element that only its end tag closes, or as text
to the end. -/
inductive TextMode
  | markup
  | escapable (name : String)
  | raw (name : String)
  | script
  | plain
  deriving DecidableEq, Repr

def replaceNul (c : Char) : Char := if c == '\x00' then '\uFFFD' else c

/-- A tag as far as it is read: its parts, and each part's characters, last first. -/
structure TagDraft where
  name : List Char
  attributes : List (List Char × List Char)

namespace TagDraft

def openAttribute (draft : TagDraft) (c : Char) : TagDraft :=
  { draft with attributes := ([replaceNul c], []) :: draft.attributes }

def extendName (draft : TagDraft) (c : Char) : TagDraft :=
  match draft.attributes with
  | (name, value) :: rest => { draft with attributes := (replaceNul c :: name, value) :: rest }
  | [] => draft

def extendValue (draft : TagDraft) (c : Char) : TagDraft :=
  match draft.attributes with
  | (name, value) :: rest => { draft with attributes := (name, replaceNul c :: value) :: rest }
  | [] => draft

def tagName (draft : TagDraft) : String := Text.lowerAscii (String.ofList draft.name.reverse)

/-- Of attributes with one name the first counts. -/
def attributeList (draft : TagDraft) : List (String × String) :=
  draft.attributes.reverse.foldl (fun found (name, value) =>
    let name := Text.lowerAscii (String.ofList name.reverse)
    if Entries.has name found then found
    else found ++ [(name, String.ofList (resolveReferences value.reverse))]) []

end TagDraft

/-- Where in a tag the reader is. -/
inductive TagPlace
  | tagName
  | beforeAttribute
  | attributeName
  | afterAttributeName
  | beforeValue
  | quotedValue (quote : Char)
  | bareValue
  | afterValue
  | slash

inductive TagStep
  | go (place : TagPlace) (draft : TagDraft)
  | done (draft : TagDraft) (selfClosing : Bool)

/-- Outside names and values. -/
def stepBeforeAttribute (draft : TagDraft) (c : Char) : TagStep :=
  if Text.isSyntaxSpace c then .go .beforeAttribute draft
  else if c == '>' then .done draft false
  else if c == '/' then .go .slash draft
  else .go .attributeName (draft.openAttribute c)

def stepTag (place : TagPlace) (draft : TagDraft) (c : Char) : TagStep :=
  match place with
  | .tagName =>
    if Text.isSyntaxSpace c then .go .beforeAttribute draft
    else if c == '>' then .done draft false
    else if c == '/' then .go .slash draft
    else .go .tagName { draft with name := replaceNul c :: draft.name }
  | .beforeAttribute => stepBeforeAttribute draft c
  | .attributeName =>
    if c == '=' then .go .beforeValue draft
    else if Text.isSyntaxSpace c then .go .afterAttributeName draft
    else if c == '>' then .done draft false
    else if c == '/' then .go .slash draft
    else .go .attributeName (draft.extendName c)
  | .afterAttributeName =>
    if c == '=' then .go .beforeValue draft
    else if Text.isSyntaxSpace c then .go .afterAttributeName draft
    else stepBeforeAttribute draft c
  | .beforeValue =>
    if Text.isSyntaxSpace c then .go .beforeValue draft
    else if c == '"' || c == '\'' then .go (.quotedValue c) draft
    else if c == '>' then .done draft false
    else .go .bareValue (draft.extendValue c)
  | .quotedValue quote =>
    if c == quote then .go .afterValue draft else .go (.quotedValue quote) (draft.extendValue c)
  | .bareValue =>
    if Text.isSyntaxSpace c then .go .beforeAttribute draft
    else if c == '>' then .done draft false
    else .go .bareValue (draft.extendValue c)
  | .afterValue => stepBeforeAttribute draft c
  | .slash => if c == '>' then .done draft true else stepBeforeAttribute draft c

/-- Reads to the end of a tag; a tag that does not end is lost with all after it. -/
def readTag (place : TagPlace) (draft : TagDraft) :
    List Char → Option (TagDraft × Bool × List Char)
  | [] => none
  | c :: rest =>
    match stepTag place draft c with
    | .go place draft => readTag place draft rest
    | .done draft selfClosing => some (draft, selfClosing, rest)

/-- Where in a comment the reader is: at its start, or after so many of the closing characters. -/
inductive CommentPlace
  | start
  | startDash
  | inside
  | dash
  | dashDash
  | bang

/-- Reads to the end of a comment; `data` is its text so far, last character first. A NUL at the
start leaves the reader there. -/
def readComment (place : CommentPlace) (data : List Char) : List Char → String × List Char
  | [] => (String.ofList data.reverse, [])
  | c :: rest =>
    match place with
    | .start =>
      if c == '-' then readComment .startDash data rest
      else if c == '>' then (String.ofList data.reverse, rest)
      else readComment (if c == '\x00' then .start else .inside) (replaceNul c :: data) rest
    | .startDash =>
      if c == '-' then readComment .dashDash data rest
      else if c == '>' then (String.ofList data.reverse, rest)
      else
        readComment (if c == '\x00' then .startDash else .inside) (replaceNul c :: '-' :: data) rest
    | .inside =>
      if c == '-' then readComment .dash data rest
      else readComment .inside (replaceNul c :: data) rest
    | .dash =>
      if c == '-' then readComment .dashDash data rest
      else readComment .inside (replaceNul c :: '-' :: data) rest
    | .dashDash =>
      if c == '>' then (String.ofList data.reverse, rest)
      else if c == '!' then readComment .bang data rest
      else if c == '-' then readComment .dashDash ('-' :: data) rest
      else readComment .inside (replaceNul c :: '-' :: '-' :: data) rest
    | .bang =>
      if c == '>' then (String.ofList data.reverse, rest)
      else if c == '-' then readComment .dash ('!' :: '-' :: '-' :: data) rest
      else readComment .inside (replaceNul c :: '!' :: '-' :: '-' :: data) rest

/-- What is no tag, comment or document type: a comment up to the next angle bracket. -/
def readBogusComment (cs : List Char) : Option Token × List Char :=
  let data := cs.takeWhile (· != '>')
  (some (.comment (String.ofList (data.map replaceNul))), cs.drop (data.length + 1))

/-- The text up to `]]>` and the rest after it. -/
def readCdata (data : List Char) : List Char → List Char × List Char
  | ']' :: ']' :: '>' :: rest => (data.reverse, rest)
  | c :: rest => readCdata (replaceNul c :: data) rest
  | [] => (data.reverse, [])

def startsWithDoctype (cs : List Char) : Bool :=
  (cs.take 7).map Text.lowerAsciiChar == "doctype".toList

/-- After `<!`. Document types say nothing inside a document. Character data sections exist in
foreign content only. -/
def readDeclaration (foreign : Bool) (cs : List Char) : Option Token × List Char :=
  if "--".toList.isPrefixOf cs then
    let (data, rest) := readComment .start [] (cs.drop 2)
    (some (.comment data), rest)
  else if startsWithDoctype cs then (none, (cs.dropWhile (· != '>')).drop 1)
  else if foreign && "[CDATA[".toList.isPrefixOf cs then
    let (data, rest) := readCdata [] (cs.drop 7)
    (if data.isEmpty then none else some (.text data), rest)
  else readBogusComment cs

/-- A start tag whose name begins here. -/
def readStartTag (cs : List Char) : Option Token × List Char :=
  match readTag .tagName ⟨[], []⟩ cs with
  | some (draft, selfClosing, rest) =>
    (some (.startTag draft.tagName draft.attributeList selfClosing), rest)
  | none => (none, [])

/-- An end tag whose name begins here; what else it holds is dropped. -/
def readEndTag (cs : List Char) : Option Token × List Char :=
  match readTag .tagName ⟨[], []⟩ cs with
  | some (draft, _, rest) => (some (.endTag draft.tagName), rest)
  | none => (none, [])

/-- After `</`. -/
def readClosing : List Char → Option Token × List Char
  | [] => (some (.text ['<', '/']), [])
  | '>' :: rest => (none, rest)
  | c :: rest => if isLetter c then readEndTag (c :: rest) else readBogusComment (c :: rest)

/-- After `<`. -/
def readOpening (foreign : Bool) : List Char → Option Token × List Char
  | '!' :: rest => readDeclaration foreign rest
  | '/' :: rest => readClosing rest
  | '>' :: rest => (some (.text ['<', '>']), rest)
  | '?' :: rest => readBogusComment ('?' :: rest)
  | c :: rest =>
    if isLetter c then readStartTag (c :: rest) else (some (.text ['<']), c :: rest)
  | [] => (some (.text ['<']), [])

/-- What is left when the text after `<` is the end tag of this element: its name begins there,
and it ends there too. -/
def endTagOf? (name : String) : List Char → Option (List Char)
  | '/' :: cs =>
    let length := name.length
    let matched := (cs.take length).map Text.lowerAsciiChar == name.toList
    match (cs.drop length).head? with
    | some c => if matched && (Text.isSyntaxSpace c || c == '/' || c == '>') then some cs else none
    | none => none
  | _ => none

/-- A reference after `&`, as a token. -/
def readReferenceToken (cs : List Char) : Option Token × List Char :=
  let (chars, taken) := reference false cs
  let token := match chars with
    | [c] => if Text.isSyntaxSpace c then Token.space chars else .text chars
    | _ => .text chars
  (some token, cs.drop taken)

/-- Where in a script the reader is. Inside a comment a script may open and close another one. -/
inductive ScriptPlace
  | outside
  | opening
  | commentStart
  | commentStartDash
  | inComment
  | commentDash
  | commentDashDash
  | commentOpening
  | nestedName (name : List Char)
  | nested
  | nestedDash
  | nestedDashDash
  | nestedOpening
  | nestedEndName (name : List Char)

namespace ScriptPlace

/-- Whether an end tag that begins at the next character closes the script. -/
def mayClose : ScriptPlace → Bool
  | outside | opening | commentStart | commentStartDash => true
  | inComment | commentDash | commentDashDash | commentOpening | nestedName _ => true
  | _ => false

def nextOutside (c : Char) : ScriptPlace := if c == '<' then opening else outside

def nextInComment (c : Char) : ScriptPlace :=
  if c == '-' then commentDash else if c == '<' then commentOpening else inComment

def nextNested (c : Char) : ScriptPlace :=
  if c == '-' then nestedDash else if c == '<' then nestedOpening else nested

def endsName (c : Char) : Bool := Text.isSyntaxSpace c || c == '/' || c == '>'

def isScriptName (name : List Char) : Bool :=
  name.reverse.map Text.lowerAsciiChar == "script".toList

def next (place : ScriptPlace) (c : Char) : ScriptPlace :=
  match place with
  | outside => nextOutside c
  | opening => if c == '!' then commentStart else nextOutside c
  | commentStart => if c == '-' then commentStartDash else nextOutside c
  | commentStartDash => if c == '-' then commentDashDash else nextOutside c
  | inComment => nextInComment c
  | commentDash => if c == '-' then commentDashDash else nextInComment c
  | commentDashDash =>
    if c == '-' then commentDashDash else if c == '>' then outside else nextInComment c
  | commentOpening => if isLetter c then nestedName [c] else nextInComment c
  | nestedName name =>
    if endsName c then (if isScriptName name then nested else inComment)
    else if isLetter c then nestedName (c :: name) else nextInComment c
  | nested => nextNested c
  | nestedDash => if c == '-' then nestedDashDash else nextNested c
  | nestedDashDash =>
    if c == '-' then nestedDashDash else if c == '>' then outside else nextNested c
  | nestedOpening => if c == '/' then nestedEndName [] else nextNested c
  | nestedEndName name =>
    if endsName c then (if isScriptName name then inComment else nested)
    else if isLetter c then nestedEndName (c :: name) else nextNested c

end ScriptPlace

/-- The text of a script up to its end tag, or to the end. -/
def readScript (place : ScriptPlace) (data : List Char) : List Char → List Char × List Char
  | [] => (data.reverse, [])
  | c :: rest =>
    if c == '<' && place.mayClose && (endTagOf? "script" rest).isSome then (data.reverse, c :: rest)
    else readScript (place.next c) (replaceNul c :: data) rest

/-- A run of text that begins here and holds none of the characters in `stops`. -/
def readRun (stops : List Char) (cs : List Char) : List Char × List Char :=
  (cs.takeWhile (!stops.contains ·), cs.dropWhile (!stops.contains ·))

/-- Text in which references count: spacing on its own, or a run up to the next markup. -/
def readText (cs : List Char) : Option Token × List Char :=
  match cs with
  | [] => (none, [])
  | c :: rest =>
    if Text.isSyntaxSpace c then
      (some (.space (c :: rest.takeWhile Text.isSyntaxSpace)), rest.dropWhile Text.isSyntaxSpace)
    else
      let (run, rest) := readRun ['&', '<', '\x00'] rest
      (some (.text (c :: run)), rest)

/-- The next token, if one ends here, and the mode and text after it. Always takes at least one
character. -/
def nextToken (foreign : Bool) (mode : TextMode) (cs : List Char) :
    Option Token × TextMode × List Char :=
  match cs with
  | [] => (none, mode, [])
  | c :: rest =>
    match mode with
    | .markup =>
      let (token, after) :=
        if c == '&' then readReferenceToken rest
        else if c == '<' then readOpening foreign rest
        else if c == '\x00' then (some (.text ['\x00']), rest)
        else readText cs
      (token, mode, after)
    | .escapable name =>
      if c == '<' then
        match endTagOf? name rest with
        | some tag => let (token, after) := readEndTag tag; (token, .markup, after)
        | none => (some (.text ['<']), mode, rest)
      else
        let (token, after) :=
          if c == '&' then readReferenceToken rest
          else if c == '\x00' then (some (.text ['\uFFFD']), rest)
          else readText cs
        (token, mode, after)
    | .raw name =>
      if c == '<' then
        match endTagOf? name rest with
        | some tag => let (token, after) := readEndTag tag; (token, .markup, after)
        | none => (some (.text ['<']), mode, rest)
      else
        let (run, after) := readRun ['<'] rest
        (some (.text ((c :: run).map replaceNul)), mode, after)
    | .script =>
      match (if c == '<' then endTagOf? "script" rest else none) with
      | some tag => let (token, after) := readEndTag tag; (token, .markup, after)
      | none =>
        let (data, after) := readScript .outside [] cs
        (some (.text data), mode, after)
    | .plain => (some (.text (cs.map replaceNul)), mode, [])

end EditorBlocks.Markup
