import EditorBlocks.Block.Sourced
import EditorBlocks.Sourcing.Fault
/-!
Outcomes of a parse: a result, or a structured failure.
-/

namespace EditorBlocks

structure ParseResult where
  blocks : List SourcedBlock
  warnings : List String
  debug : Option (List (String × Value))
  deriving Repr

namespace ParseResult

def check : Value → Checked ParseResult
  | .map es =>
    mk <$> Checked.memberOr [] "blocks" (Checked.list SourcedBlock.check) es
      <*> Checked.memberOr [] "warnings" (Checked.list Checked.text) es
      <*> Checked.memberOr none "debug" (Checked.optional Checked.mapping) es
  | _ => .refuse .notObject

/-- The stable form of a result: warnings appear if there are any, debug data if it is there. -/
def toValue (r : ParseResult) : Value :=
  .object ([("blocks", Value.list (SourcedBlock.toValues r.blocks))]
    ++ (if r.warnings.isEmpty then [] else [("warnings", .list (r.warnings.map .str))])
    ++ (r.debug.map fun es => ("debug", Value.object es)).toList)

def fields (withNulls : Bool) (r : ParseResult) : Value :=
  .object ([("blocks", Value.list (SourcedBlock.fieldsOfList withNulls r.blocks)),
      ("warnings", .list (r.warnings.map .str)),
      ("debug", (r.debug.map Value.object).getD .null)].filter fun m =>
    withNulls || !m.2.isNull)

end ParseResult

/-- An error as it is handed out. -/
structure ParseError where
  code : String
  message : String
  status : Int
  details : Option String
  deriving DecidableEq, Repr

namespace ParseError

def ofKind (kind : FailureKind) (message : String) (details : Option String) : ParseError :=
  ⟨kind.code, message, kind.status, details⟩

def check : Value → Checked ParseError
  | .map es =>
    mk <$> Checked.required "code" Checked.text es
      <*> Checked.required "message" Checked.text es
      <*> Checked.required "status" Checked.integer es
      <*> Checked.memberOr none "details" (Checked.optional Checked.text) es
  | _ => .refuse .notObject

def members (withNulls : Bool) (e : ParseError) : Value :=
  .object ([("code", Value.str e.code), ("message", .str e.message), ("status", .int e.status),
      ("details", (e.details.map Value.str).getD .null)].filter fun m => withNulls || !m.2.isNull)

/-- The stable form of an error: details appear if they are there. -/
def toValue (e : ParseError) : Value := e.members false

end ParseError

/-- Why a parse has no result. A parser failure keeps the fault that caused it. -/
structure ParseFailure where
  kind : FailureKind
  message : String
  cause : Option Fault
  deriving DecidableEq, Repr

namespace ParseFailure

def toError (f : ParseFailure) : ParseError := .ofKind f.kind f.message (f.cause.map (·.text))

end ParseFailure

/-- How a parse without a result ends: with a failure that it hands out, or with a fault that it
raises, perhaps while it reports another one. -/
inductive Unparsed
  | failure (f : ParseFailure)
  | raised (fault : Fault) (reporting : Option Fault)
  deriving DecidableEq, Repr

abbrev ParseOutcome := Except Unparsed ParseResult

end EditorBlocks
