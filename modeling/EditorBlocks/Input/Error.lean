import EditorBlocks.Data.Checked
import EditorBlocks.Data.Json.Reader
import EditorBlocks.Data.Yaml.Scalar
/-!
Errors in the data that a parser is built from: registries, block lists, metadata and their files.
-/

namespace EditorBlocks

/-- What is wrong with input data. -/
inductive InputError
  | unsupportedRegistry (data : Value)
  | invalidBlockType (complaints : List Complaint)
  /-- a registry entry that has members of no kind -/
  | unusableBody
  | blocksNotList
  | invalidBlock (complaints : List Complaint)
  /-- metadata without entries of any kind -/
  | unusableMetadata
  | invalidPost (key : Value)
  | infinitePost
  | unreadableFile (path : String)
  | malformedJson (path : String) (problem : Json.Problem) (position : Nat)
  | malformedYaml (path : String)
  | oversizedNumber
  /-- a scalar that asks for a value that does not exist -/
  | unreadableScalar (problem : Yaml.Problem)
  | undecodableText
  /-- text with an escape of half a pair: it can be read, but not as characters -/
  | loneSurrogate
  | metadataNotMapping (path : String)

/-- The kind of a value as messages name it. -/
def Value.kindName : Value → String
  | null => "NoneType"
  | bool _ => "bool"
  | int _ => "int"
  | float _ => "float"
  | str _ => "str"
  | list _ => "list"
  | map _ => "dict"
  | date _ => "date"
  | moment _ => "datetime"
  | bytes _ => "bytes"
  | set _ => "set"
  | pair _ _ => "tuple"

namespace InputError

/-- The message of an error that is reported as one of configuration. The others are faults of
their own kinds, which callers do not expect. -/
def message? : InputError → Option String
  | unsupportedRegistry data => some ("Unsupported registry data: " ++ data.kindName)
  | invalidBlockType _ => some "Invalid block type definition"
  | blocksNotList => some "Tokenized blocks must be a list"
  | invalidBlock _ => some "Invalid tokenized block"
  | invalidPost key => some ("Invalid post ID in metadata: " ++ key.quoted)
  | unreadableFile path => some ("Cannot read " ++ path)
  | malformedJson path _ _ => some ("Cannot parse " ++ path)
  | malformedYaml path => some ("Cannot parse " ++ path)
  | metadataNotMapping path => some ("Metadata file " ++ path ++ " must contain a mapping")
  | unusableBody | unusableMetadata | infinitePost | oversizedNumber | unreadableScalar _
  | undecodableText | loneSurrogate => none

/-- Whether an error is one of configuration. -/
def isConfiguration (e : InputError) : Bool := e.message?.isSome

/-- The complaints about data of a wrong shape. -/
def complaints : InputError → List Complaint
  | invalidBlockType cs | invalidBlock cs => cs
  | _ => []

end InputError
end EditorBlocks
