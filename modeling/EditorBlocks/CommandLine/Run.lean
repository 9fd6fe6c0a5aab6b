import EditorBlocks.CommandLine.Options
import EditorBlocks.Data.Json.Writer
import EditorBlocks.Input.File
import EditorBlocks.Log.Setup
import EditorBlocks.Session.Parser
/-!
One run of the command: from the files it is given to the text that it prints.
-/

namespace EditorBlocks.CommandLine

/-- The files of a run, and the text of the environment that can switch debug data on. -/
structure Sources where
  content : InputFile
  blocks : InputFile
  registry : InputFile
  metadata : Option InputFile
  debugText : String

/-- How a run ends. -/
inductive Ending
  /-- the input cannot be used -/
  | refused (message : String)
  /-- the input has a fault that is not expected -/
  | broken (error : InputError)
  /-- the parse ends with a fault and no outcome -/
  | raised (fault : Fault)
  /-- the result holds data that cannot be printed -/
  | unprintable (problem : Json.Unwritable)
  | printed (success : Bool) (text : String)

/-- A run: its ending and all records made on the way, shown or not. -/
structure Run where
  ending : Ending
  records : List Log.Record

namespace Ending

/-- The exit code. -/
def code : Ending → Nat
  | printed true _ => 0
  | printed false _ | broken _ | raised _ | unprintable _ => 1
  | refused _ => 2

/-- The ending that unusable input leads to. A file that cannot be read is refused like other
input. -/
def ofInputError (e : InputError) : Ending :=
  match e.message? with
  | some message => refused message
  | none => broken e

end Ending

/-- How many definitions the data of a registry holds, repeated names included. -/
def definitionCount : Value → Nat
  | .map es => es.length
  | .list vs => vs.length
  | _ => 0

def loadedRecord (data : Value) : Log.Record :=
  Log.record .debug .registry
    ("Loaded " ++ toString (definitionCount data) ++ " block type definition(s)") .none

def finishedRecord (success : Bool) : Log.Record :=
  Log.record .debug .commandLine
    ("Parse finished: success=" ++ (if success then "True" else "False")) .none

/-- What a run parses with. -/
structure Loaded where
  content : String
  registry : Registry
  blocks : List ParsedBlock
  metadata : Metadata

/-- Loads the files in order. That the registry is there is noted. -/
def load (s : Sources) : Log.Noted InputError Loaded := do
  let content ← Log.Noted.ofExcept s.content.text
  let data ← Log.Noted.ofExcept s.registry.data
  let registry ← Log.Noted.ofExcept (Registry.ofData data)
  Log.Noted.note (loadedRecord data)
  let blocks ← Log.Noted.ofExcept (ParsedBlock.listOfFile s.blocks)
  let metadata ← match s.metadata with
    | some file => Log.Noted.ofExcept (Metadata.ofFile file)
    | none => pure Metadata.empty
  pure ⟨content, registry, blocks, metadata⟩

def parser (o : Options) (debugText : String) (l : Loaded) : Parser :=
  ⟨l.registry, Parser.fixed l.blocks, Hooks.none, .logging,
    ⟨o.debug || Settings.isOn debugText, defaultMarker⟩⟩

/-- The data that is printed for an outcome, or the fault that is raised in its place. -/
def outcomeValue : ParseOutcome → Except Fault Value
  | .ok result => .ok result.toValue
  | .error (.failure failure) => .ok failure.toError.toValue
  | .error (.raised fault _) => .error fault

def succeeded : ParseOutcome → Bool
  | .ok _ => true
  | .error _ => false

/-- The text that is printed: JSON with an item on each line, and the end of a line. -/
def printedText (o : Options) (v : Value) : Except Json.Unwritable String :=
  (Json.write ⟨.unicode, some o.indent.toNat⟩ v).map (· ++ "\n")

/-- The end of a run when the parse has ended. -/
def finish (o : Options) (outcome : ParseOutcome) (records : List Log.Record) : Run :=
  match outcomeValue outcome with
  | .error fault => ⟨.raised fault, records⟩
  | .ok v =>
    let records := records ++ [finishedRecord (succeeded outcome)]
    match printedText o v with
    | .ok text => ⟨.printed (succeeded outcome) text, records⟩
    | .error problem => ⟨.unprintable problem, records⟩

/-- Runs the command. -/
def run (o : Options) (s : Sources) : Run :=
  let loading := load s
  match loading.outcome with
  | .error e => ⟨.ofInputError e, loading.records⟩
  | .ok l =>
    let (outcome, journal) :=
      (parser o s.debugText l).parse ⟨l.content, o.postId, o.filter⟩ (.start l.metadata)
    finish o outcome (loading.records ++ journal.records)

/-- The set-up of logging that options ask for. -/
def Options.logging (o : Options) : Log.Setup :=
  ⟨if o.verbose then Log.Level.debug else Log.Level.warning, .rich⟩

/-- The records that are shown. -/
def Run.shown (r : Run) (o : Options) : List Log.Record := r.records.filter o.logging.shows

end EditorBlocks.CommandLine
