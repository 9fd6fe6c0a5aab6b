import EditorBlocks.Data.Yaml.Token
/-!
Layout: the tokens of a text, with tokens added where indentation begins and ends a structure and
where a colon shows that something before it was a key.
-/

namespace EditorBlocks.Yaml

/-- A place where a key may have begun: before which token, and where. A key that is `required` has
to be one, because nothing else can stand there. -/
structure KeyPlace where
  tokens : Nat
  required : Bool
  position : Nat
  line : Nat
  column : Nat

/-- The state of reading tokens. `keys` has one place for each bracket that is open and one for the
text around; the tokens are kept last first. -/
structure Layout where
  cursor : Cursor
  tokens : List Token
  indent : Int
  outer : List Int
  keys : List (Option KeyPlace)
  keyAllowed : Bool

namespace Layout

def start (text : List Char) : Layout := ⟨.start text, [], -1, [], [none], true⟩

def inFlow (s : Layout) : Bool := 1 < s.keys.length

def add (s : Layout) (t : Token) : Layout := { s with tokens := t :: s.tokens }

/-- Adds a token where only so many were before it. -/
def insertAt (s : Layout) (count : Nat) (t : Token) : Layout :=
  let later := s.tokens.length - count
  { s with tokens := s.tokens.take later ++ t :: s.tokens.drop later }

/-- Over spaces, comments and line breaks to what comes next. After a line break outside brackets a
key may begin. -/
def skipSpacing : (fuel : Nat) → Layout → Layout
  | 0, s => s
  | fuel + 1, s =>
    let c := s.cursor.skipSpaces.skipComment
    match c.lineBreak? with
    | some (_, next) =>
      skipSpacing fuel { s with cursor := next, keyAllowed := s.keyAllowed || !s.inFlow }
    | none => { s with cursor := c }

/-- Forgets the places of keys that have become too far away: a key stands on one line and is not
long. -/
def forgetKeys (s : Layout) : Except Problem Layout := do
  let far (k : KeyPlace) : Bool := k.line != s.cursor.line || 1024 < s.cursor.position - k.position
  if s.keys.any fun k => k.any fun k => far k && k.required then .error .malformed
  else .ok { s with keys := s.keys.map fun k => k.filter fun k => !far k }

/-- Takes back the place of a key. -/
def dropKey (s : Layout) : Except Problem Layout :=
  match s.keys with
  | some k :: rest => if k.required then .error .malformed else .ok { s with keys := none :: rest }
  | _ => .ok s

/-- Notes that a key may begin here. -/
def markKey (s : Layout) : Except Problem Layout := do
  if s.keyAllowed then
    let s ← s.dropKey
    let place : KeyPlace := ⟨s.tokens.length, !s.inFlow && s.indent = s.cursor.column,
      s.cursor.position, s.cursor.line, s.cursor.column⟩
    .ok { s with keys := some place :: s.keys.drop 1 }
  else .ok s

/-- Ends the structures that are indented further than a column. -/
def unindentFrom (column : Int) : List Int → Layout → Layout
  | outer, s =>
    if s.indent ≤ column then { s with outer := outer }
    else
      match outer with
      | [] => { s with outer := [] }
      | indent :: rest => unindentFrom column rest { s.add .blockEnd with indent := indent }

def unindent (column : Int) (s : Layout) : Layout :=
  if s.inFlow then s else unindentFrom column s.outer s

/-- Whether a structure would begin at a column. -/
def isDeeper (s : Layout) (column : Nat) : Bool := s.indent < column

def indentTo (column : Nat) (s : Layout) : Layout :=
  { s with outer := s.indent :: s.outer, indent := column }

def step (s : Layout) : Layout := { s with cursor := s.cursor.step }

/-- Ends all structures, before something that concerns whole documents. -/
def closeAll (s : Layout) : Except Problem Layout := do
  let s ← (s.unindent (-1)).dropKey
  .ok { s with keyAllowed := false }

def openBracket (t : Token) (s : Layout) : Except Problem Layout := do
  let s ← s.markKey
  .ok { (s.add t).step with keys := none :: s.keys, keyAllowed := true }

def closeBracket (t : Token) (s : Layout) : Except Problem Layout := do
  let s ← s.dropKey
  if s.inFlow then .ok { (s.add t).step with keys := s.keys.drop 1, keyAllowed := false }
  else .error .malformed

def flowEntry (s : Layout) : Except Problem Layout := do
  let s ← s.dropKey
  .ok { (s.add .flowEntry).step with keyAllowed := true }

/-- Begins a structure at the cursor if it is indented further than the one around. -/
def openBlock (t : Token) (s : Layout) : Except Problem Layout :=
  if s.inFlow then .ok s
  else if !s.keyAllowed then .error .malformed
  else if s.isDeeper s.cursor.column then .ok (indentTo s.cursor.column (s.add t))
  else .ok s

def blockEntry (s : Layout) : Except Problem Layout := do
  let s ← s.openBlock .blockSequence
  let s ← s.dropKey
  .ok { (s.add .blockEntry).step with keyAllowed := true }

def explicitKey (s : Layout) : Except Problem Layout := do
  let s ← s.openBlock .blockMapping
  let s ← s.dropKey
  .ok { (s.add .key).step with keyAllowed := !s.inFlow }

/-- A colon. What stands before it becomes a key if it can be one. -/
def value (s : Layout) : Except Problem Layout := do
  match s.keys with
  | some k :: rest =>
    let s := { s with keys := none :: rest, keyAllowed := false }.insertAt k.tokens .key
    let s :=
      if !s.inFlow && s.isDeeper k.column then indentTo k.column (s.insertAt k.tokens .blockMapping)
      else s
    .ok (s.add .value).step
  | _ =>
    let s ← s.openBlock .blockMapping
    .ok { (s.add .value).step with keyAllowed := !s.inFlow }

/-- A token that has been read up to a place, where a key could have begun before it. -/
def atom (s : Layout) (read : Lexing (Token × Cursor)) : Except Problem Layout := do
  let s ← s.markKey
  let (t, next) ← read
  .ok { s.add t with cursor := next, keyAllowed := false }

def block (foldsLines : Bool) (s : Layout) : Except Problem Layout := do
  let s ← s.dropKey
  let (text, next) ← blockScalar foldsLines s.indent s.cursor
  .ok { s.add (.scalar (String.ofList text) false) with cursor := next, keyAllowed := true }

def quoted (double : Bool) (s : Layout) : Except Problem Layout :=
  s.atom do
    let (text, next) ← quotedScalar double s.cursor
    .ok (.scalar (String.ofList text) false, next)

def plain (s : Layout) : Except Problem Layout := do
  let s ← s.markKey
  let ((text, broken), next) := plainScalar s.inFlow s.indent s.cursor
  .ok { s.add (.scalar (String.ofList text) true) with cursor := next, keyAllowed := broken }

def documentMark (t : Token) (s : Layout) : Except Problem Layout := do
  let s ← s.closeAll
  .ok { s.add t with cursor := s.cursor.advance 3 }

/-- Whether a plain scalar may begin here. -/
def beginsPlain (s : Layout) (c : Char) : Bool :=
  !(endsWord (some c) || "-?:,[]\x7b\x7d#&*!|>'\"%@\x60".toList.contains c)
    || (!endsWord (s.cursor.peekAt 1) && (c == '-' || (!s.inFlow && (c == '?' || c == ':'))))

/-- The next token; the cursor stands at its first character. -/
def token (c : Char) (s : Layout) : Except Problem Layout :=
  let atLineStart := s.cursor.column == 0
  let alone := endsWord (s.cursor.peekAt 1)
  if c == '%' && atLineStart then do
    let s ← s.closeAll
    let (found, next) ← directive s.cursor
    .ok { s.add (.directive found) with cursor := next }
  else if atLineStart && s.cursor.atSeparator then
    s.documentMark (if c == '-' then .documentStart else .documentEnd)
  else if c == '[' then s.openBracket .flowSequence
  else if c == '\x7b' then s.openBracket .flowMapping
  else if c == ']' then s.closeBracket .flowSequenceEnd
  else if c == '\x7d' then s.closeBracket .flowMappingEnd
  else if c == ',' then s.flowEntry
  else if c == '-' && alone then s.blockEntry
  else if c == '?' && (s.inFlow || alone) then s.explicitKey
  else if c == ':' && (s.inFlow || alone) then s.value
  else if c == '*' then s.atom do
    let (name, next) ← anchorName s.cursor
    .ok (.alias name, next)
  else if c == '&' then s.atom do
    let (name, next) ← anchorName s.cursor
    .ok (.anchor name, next)
  else if c == '!' then s.atom do
    let (word, next) ← tagWord s.cursor
    .ok (.tag word, next)
  else if c == '|' && !s.inFlow then s.block false
  else if c == '>' && !s.inFlow then s.block true
  else if c == '\'' then s.quoted false
  else if c == '"' then s.quoted true
  else if s.beginsPlain c then s.plain
  else .error .malformed

/-- Reads tokens to the end of the text. -/
def readAll : (fuel : Nat) → Layout → Except Problem (List Token)
  | 0, _ => .error .malformed
  | fuel + 1, s => do
    let s ← (skipSpacing (s.cursor.rest.length + 1) s).forgetKeys
    let s := s.unindent s.cursor.column
    match s.cursor.peek with
    | none =>
      let s ← s.closeAll
      .ok s.tokens.reverse
    | some c => readAll fuel (← s.token c)

end Layout

/-- The characters that a text may have. -/
def isAllowed (c : Char) : Bool :=
  let n := c.toNat
  n == 9 || n == 10 || n == 13 || (0x20 ≤ n && n ≤ 0x7E) || n == 0x85
    || (0xA0 ≤ n && n ≤ 0xFFFD) || 0x10000 ≤ n

/-- The tokens of a text. A byte order mark at the start is passed over. -/
def tokens (text : String) : Except Problem (List Token) :=
  let cs := text.toList
  if !cs.all isAllowed then .error .malformed
  else
    let s := Layout.start cs
    let s := if cs.head? == some '\uFEFF' then s.step else s
    s.readAll (cs.length + 1)

end EditorBlocks.Yaml
