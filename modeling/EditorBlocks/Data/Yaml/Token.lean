import EditorBlocks.Data.Yaml.Scalar
/-!
Tokens of a YAML text, and the words that stand for anchors, tags and directives.
-/

namespace EditorBlocks.Yaml

inductive Directive
  | version (major : Nat)
  | tag (handle address : String)
  | unknown
  deriving DecidableEq, Repr

/-- A tag as it is written: perhaps with a handle that stands for an address. -/
structure TagWord where
  handle : Option String
  suffix : String
  deriving DecidableEq, Repr

/-- `blockSequence` and `blockMapping` begin a structure that indentation shows, `blockEnd` ends
it. -/
inductive Token
  | directive (directive : Directive)
  | documentStart
  | documentEnd
  | blockSequence
  | blockMapping
  | blockEnd
  | flowSequence
  | flowSequenceEnd
  | flowMapping
  | flowMappingEnd
  | blockEntry
  | flowEntry
  | key
  | value
  | alias (name : String)
  | anchor (name : String)
  | tag (word : TagWord)
  | scalar (text : String) (plain : Bool)
  deriving DecidableEq, Repr

def isWordChar (c : Char) : Bool := c.isAlphanum || c == '-' || c == '_'

/-- The name of an anchor or an alias, after its indicator. -/
def anchorName (c : Cursor) : Lexing (String × Cursor) :=
  let (name, next) := c.step.span isWordChar
  let ends := next.peek.all fun x =>
    endsWord (some x) || ['?', ':', ',', ']', '\x7d', '%', '@', '\x60'].contains x
  if name.isEmpty || !ends then .error .malformed else .ok (String.ofList name, next)

/-- The octets of escapes that follow one another. -/
def escapedOctets : (fuel : Nat) → Cursor → Lexing (List Nat × Cursor)
  | 0, c => .ok ([], c)
  | fuel + 1, c =>
    if c.peek != some '%' then .ok ([], c)
    else
      match Text.hexPrefix? 2 c.step.rest with
      | none => .error .malformed
      | some octet => do
        let (more, next) ← escapedOctets fuel (c.advance 3)
        .ok (octet :: more, next)

/-- The characters that octets encode. -/
def octetText? (octets : List Nat) : Option (List Char) :=
  (String.fromUTF8? ⟨(octets.map UInt8.ofNat).toArray⟩).map (·.toList)

def isAddressChar (c : Char) : Bool := c.isAlphanum || "-;/?:@&=+$,_.!~*'()[]".toList.contains c

/-- The characters of an address, escapes resolved. -/
def addressFrom : (fuel : Nat) → Cursor → Lexing (List Char × Cursor)
  | 0, c => .ok ([], c)
  | fuel + 1, c => do
    let (plain, next) := c.span isAddressChar
    if next.peek != some '%' then .ok (plain, next)
    else
      let (octets, next) ← escapedOctets next.rest.length next
      match octetText? octets with
      | none => .error .malformed
      | some decoded => do
        let (more, next) ← addressFrom fuel next
        .ok (plain ++ decoded ++ more, next)

def address (c : Cursor) : Lexing (String × Cursor) := do
  let (text, next) ← addressFrom c.rest.length c
  if next.position = c.position then .error .malformed else .ok (String.ofList text, next)

/-- A handle: `!`, or a name between two of them. Before a space the first alone will do. -/
def handle (c : Cursor) : Lexing (String × Cursor) :=
  if c.peek != some '!' then .error .malformed
  else if c.peekAt 1 == some ' ' then .ok ("!", c.step)
  else
    let (name, next) := c.step.span isWordChar
    if next.peek == some '!' then .ok ("!" ++ String.ofList name ++ "!", next.step)
    else .error .malformed

/-- A tag from its indicator on. -/
def tagWord (c : Cursor) : Lexing (TagWord × Cursor) := do
  let (word, next) ←
    if c.peekAt 1 == some '<' then do
      let (suffix, next) ← address (c.advance 2)
      if next.peek == some '>' then Except.ok (TagWord.mk none suffix, next.step)
      else .error .malformed
    else if endsWord (c.peekAt 1) then .ok (⟨none, "!"⟩, c.step)
    else do
      let word := c.step.rest.takeWhile fun x => !endsToken (some x)
      let (handle, next) ← if word.contains '!' then handle c else .ok ("!", c.step)
      let (suffix, next) ← address next
      .ok (⟨some handle, suffix⟩, next)
  if endsToken next.peek then .ok (word, next) else .error .malformed

def decimal (c : Cursor) : Lexing (Nat × Cursor) :=
  let (digits, next) := c.span Text.isAsciiDigit
  if digits.isEmpty then .error .malformed else .ok (Text.asciiValue digits, next)

def versionNumber (c : Cursor) : Lexing (Directive × Cursor) := do
  let (major, c) ← decimal c.skipSpaces
  if c.peek != some '.' then .error .malformed
  else
    let (_, c) ← decimal c.step
    if endsToken c.peek then .ok (.version major, c) else .error .malformed

def tagPrefix (c : Cursor) : Lexing (Directive × Cursor) := do
  let (handle, c) ← handle c.skipSpaces
  if c.peek != some ' ' then .error .malformed
  else
    let (address, c) ← address c.skipSpaces
    if endsToken c.peek then .ok (.tag handle address, c) else .error .malformed

/-- A directive from its indicator on, with the rest of its line. -/
def directive (c : Cursor) : Lexing (Directive × Cursor) := do
  let (name, c) := c.step.span isWordChar
  if name.isEmpty || !endsToken c.peek then .error .malformed
  else
    let (found, c) ← match String.ofList name with
      | "YAML" => versionNumber c
      | "TAG" => tagPrefix c
      | _ => .ok (.unknown, c.skip fun x => !isBreak x)
    let c := c.skipSpaces.skipComment
    match c.lineBreak? with
    | some (_, next) => .ok (found, next)
    | none => if c.rest.isEmpty then .ok (found, c) else .error .malformed

end EditorBlocks.Yaml
