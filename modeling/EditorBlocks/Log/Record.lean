import EditorBlocks.Number.Binary64
import EditorBlocks.Data.Value
/-!
Log records: a level, the logger that made the record, a message, and the post and the block that it
is about.
-/

namespace EditorBlocks.Log

/-- Levels are numbers; five of them have names. -/
abbrev Level := Int

namespace Level

def debug : Level := 10
def info : Level := 20
def warning : Level := 30
def error : Level := 40
def critical : Level := 50

/-- The name that a level shows. -/
def name (level : Level) : String :=
  if level = debug then "DEBUG"
  else if level = info then "INFO"
  else if level = warning then "WARNING"
  else if level = error then "ERROR"
  else if level = critical then "CRITICAL"
  else if level = 0 then "NOTSET"
  else "Level " ++ toString level

/-- The level of a name, in capitals only. -/
def ofName? : String → Option Level
  | "DEBUG" => some debug
  | "INFO" => some info
  | "WARNING" | "WARN" => some warning
  | "ERROR" => some error
  | "CRITICAL" | "FATAL" => some critical
  | "NOTSET" => some 0
  | _ => none

end Level

/-- The loggers of the library. -/
inductive Logger
  | analytics
  | parser
  | blocks
  | attributes
  | selectors
  | registry
  | hooks
  | commandLine
  deriving DecidableEq, Repr

/-- The name that all loggers begin with. -/
def rootName : String := "blockdata"

def Logger.name : Logger → String
  | analytics => "blockdata.analytics"
  | parser => "blockdata.parser"
  | blocks => "blockdata.sourcing.blocks"
  | attributes => "blockdata.sourcing.attributes"
  | selectors => "blockdata.dom.query"
  | registry => "blockdata.registry"
  | hooks => "blockdata.hooks"
  | commandLine => "blockdata.cli"

/-- A logger name below the root; a name that is already there stays as it is. -/
def childName (name : String) : String :=
  if (rootName ++ ".").isPrefixOf name then name else rootName ++ "." ++ name

/-- What a record is about. -/
structure Context where
  postId : Option Int
  blockName : Option String
  deriving DecidableEq, Repr

def Context.none : Context := ⟨.none, .none⟩

/-- A fault that a record reports: its kind and its text. -/
structure Raised where
  kind : String
  text : String
  deriving DecidableEq, Repr

structure Record where
  level : Level
  logger : String
  message : String
  context : Context
  raised : Option Raised
  deriving DecidableEq, Repr

/-- The members of a context that are there. -/
def Context.members (c : Context) : List (String × Value) :=
  (c.postId.map fun n => ("post_id", Value.int n)).toList
    ++ (c.blockName.map fun s => ("block_name", Value.str s)).toList

def record (level : Level) (logger : Logger) (message : String) (context : Context) : Record :=
  ⟨level, logger.name, message, context, none⟩

end EditorBlocks.Log
