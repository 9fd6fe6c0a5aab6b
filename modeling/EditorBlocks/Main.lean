import EditorBlocks.CommandLine.Run
import EditorBlocks.Log.Line
/-!
The command: reads the files that its arguments name, prints the result and keeps the log.
-/

namespace EditorBlocks.CommandLine

def readFile (path : String) : IO InputFile := do
  try return ⟨path, some (← IO.FS.readBinFile path)⟩
  catch _ => return ⟨path, none⟩

/-- The environment variable that can switch debug data on. -/
def debugVariable : String := "BLOCKDATA_PARSE_DEBUG"

def readSources (o : Options) : IO Sources := do
  return {
    content := ← readFile o.content
    blocks := ← readFile o.blocks
    registry := ← readFile o.registry
    metadata := ← o.metadata.mapM readFile
    debugText := (← IO.getEnv debugVariable).getD "" }

/-- The seconds since the start of 1970, from the time of a file made now. -/
def now : IO Binary64 := do
  let (_, path) ← IO.FS.createTempFile
  let made := (← path.metadata).modified
  IO.FS.removeFile path
  return .ofRatio (made.sec < 0) (made.sec * 1000000000 + made.nsec.toNat).natAbs 1000000000

/-- Adds lines at the end of a file, in a folder that is made if it is not there. -/
def appendText (path text : String) : IO Unit := do
  let folder := String.ofList (path.toList.reverse.dropWhile (· != '/')).reverse
  if !folder.isEmpty then IO.FS.createDirAll folder
  let file ← IO.FS.Handle.mk path .append
  file.putStr text

def keepLog (o : Options) (r : Run) : IO Unit := do
  let records := r.shown o
  let created ← now
  if let some path := o.logFile then
    appendText path (Log.fileText .json Log.Level.debug (records.map fun r => (created, r)))
  for r in records do
    if let .ok line := Log.LineStyle.compact.line created r then IO.eprintln line

def usage : String :=
  "Usage: blockdata parse [OPTIONS] CONTENT_FILE\n\n"
    ++ "Parse post content and print sourced blocks as JSON.\n\n"
    ++ "  -b, --blocks PATH      Tokenized block tree (JSON)\n"
    ++ "  -r, --registry PATH    Block type definitions (JSON or YAML)\n"
    ++ "  --meta PATH            Post metadata (JSON or YAML)\n"
    ++ "  -p, --post-id INTEGER  Post ID\n"
    ++ "  -i, --include TEXT     Block names to keep\n"
    ++ "  -e, --exclude TEXT     Block names to drop\n"
    ++ "  --debug                Include debug data in the output\n"
    ++ "  --indent INTEGER       JSON indentation\n"
    ++ "  --log-file PATH        Also write JSON logs here\n"
    ++ "  -v, --verbose          Enable verbose logging\n"

/-- Prints what a run ends with. -/
def report : Ending → IO Unit
  | .printed _ text => IO.print text
  | .refused message => IO.println ("Error: " ++ message)
  | .broken _ => IO.eprintln "Unexpected fault in the input"
  | .raised fault => IO.eprintln ("Unexpected fault in the parse: " ++ fault.text)
  | .unprintable _ => IO.eprintln "The result holds data that cannot be printed"

/-- The command `parse` with its arguments; the result is the exit code. -/
def parseCommand (arguments : List String) : IO UInt32 := do
  match Options.ofArguments arguments with
  | .error problem =>
    IO.eprintln problem.message
    return 2
  | .ok none =>
    IO.print usage
    return 0
  | .ok (some o) =>
    let r := run o (← readSources o)
    keepLog o r
    report r.ending
    return UInt32.ofNat r.ending.code

end EditorBlocks.CommandLine

open EditorBlocks.CommandLine in
def main (arguments : List String) : IO UInt32 := do
  match arguments with
  | "parse" :: rest => parseCommand rest
  | ["--help"] =>
    IO.print usage
    return 0
  | _ =>
    IO.eprintln "Missing command."
    return 2
