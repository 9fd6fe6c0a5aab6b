import EditorBlocks.Data.Yaml.Reader
import EditorBlocks.Input.Blocks
import EditorBlocks.Input.Metadata
import EditorBlocks.Input.Registry
import EditorBlocks.Text.Lines
/-!
Files of input data. The ending of a file's name tells the format of its text.
-/

namespace EditorBlocks

/-- A file as it is found: its octets, if it can be read. -/
structure InputFile where
  path : String
  octets : Option ByteArray

namespace InputFile

/-- The text of a file, with all line breaks alike. -/
def text (f : InputFile) : Except InputError String :=
  match f.octets with
  | none => .error (.unreadableFile f.path)
  | some octets =>
    match String.fromUTF8? octets with
    | none => .error .undecodableText
    | some s => .ok (String.ofList (Text.unifyBreaks s.toList))

/-- The last part of a path. -/
def lastPart (path : String) : List Char :=
  (path.toList.reverse.takeWhile (· != '/')).reverse

/-- The ending of a file's name from its last dot on; a dot at either end does not count. -/
def ending (path : String) : String :=
  let name := lastPart path
  let after := (name.reverse.takeWhile (· != '.')).reverse
  if after.isEmpty || name.length ≤ after.length + 1 then ""
  else String.ofList ('.' :: after)

/-- Whether a file holds YAML; all others hold JSON. -/
def isYaml (f : InputFile) : Bool := ending f.path == ".yaml" || ending f.path == ".yml"

def ofYaml (path text : String) : Except InputError Value :=
  match Yaml.read text with
  | .ok v => .ok v
  | .error .malformed => .error (.malformedYaml path)
  | .error .loneSurrogate => .error .loneSurrogate
  | .error problem => .error (.unreadableScalar problem)

def ofJson (path text : String) : Except InputError Value :=
  match Json.read text with
  | .ok v => .ok v
  | .error (.malformed problem position) => .error (.malformedJson path problem position)
  | .error .tooManyDigits => .error .oversizedNumber
  | .error .loneSurrogate => .error .loneSurrogate

/-- The data of a file. -/
def data (f : InputFile) : Except InputError Value := do
  let text ← f.text
  if f.isYaml then ofYaml f.path text else ofJson f.path text

end InputFile

def Registry.ofFile (f : InputFile) : Except InputError Registry := do ofData (← f.data)

def ParsedBlock.listOfFile (f : InputFile) : Except InputError (List ParsedBlock) := do
  listOfData (← f.data)

/-- The metadata of a file, which has to hold a mapping. -/
def Metadata.ofFile (f : InputFile) : Except InputError Metadata := do
  match ← f.data with
  | .map es => ofData (.map es)
  | _ => .error (.metadataNotMapping f.path)

end EditorBlocks
