import EditorBlocks.Input.Blocks
import EditorBlocks.Session.Outcome
import EditorBlocks.Session.Settings
import EditorBlocks.Sourcing.Blocks
/-!
The parser: checks a request, tokenizes the content and sources its blocks. A fault on the way
becomes one structured failure, unless the message of the failure cannot be written.
-/

namespace EditorBlocks

/-- What is told of each parse. -/
inductive Recorder
  | logging
  | silent
  | failing (fault : Fault)

/-- What parses are made with. -/
structure Parser where
  registry : Registry
  tokenize : String → Except Fault (List ParsedBlock)
  hooks : Hooks
  recorder : Recorder
  settings : Settings

/-- One request to a parser. -/
structure Request where
  content : String
  postId : Option Int
  filter : BlockFilter

namespace Parser

/-- A tokenizer that gives the same blocks for any content. -/
def fixed (blocks : List ParsedBlock) : String → Except Fault (List ParsedBlock) :=
  fun _ => .ok blocks

/-- How messages begin that are about one post. -/
def errorAt (postId : Option Int) : Except Fault String :=
  (postText (postId.getD 0)).map ("Error parsing post ID " ++ ·)

def conflictMessage : String := "Cannot provide blocks to exclude and include at the same time"

def noBlocksText : String :=
  "This post does not appear to contain block content. "
    ++ "The block data parser is designed to parse editor blocks "
    ++ "and can not read classic editor content."

/-- The failure of a request that cannot be worked on. -/
def refusal? (p : Parser) (r : Request) : Except Fault (Option ParseFailure) :=
  if r.filter.isConflicting then .ok (some ⟨.invalidParams, conflictMessage, none⟩)
  else if !hasBlocks r.content p.settings.marker then
    (errorAt r.postId).map fun start => some ⟨.noBlocks, start ++ ": " ++ noBlocksText, none⟩
  else .ok none

/-- The failure that a fault leads to. -/
def faultFailure (postId : Option Int) (fault : Fault) : Except Fault ParseFailure :=
  (errorAt postId).map fun start => ⟨.parser, start ++ ": " ++ fault.text, some fault⟩

def plan (p : Parser) (r : Request) : SourcingPlan :=
  ⟨p.registry, p.hooks, r.filter, r.postId, p.settings.debug⟩

/-- The debug data of a result: the parsed blocks as they are now, and the content. -/
def debugData (blocks : List ParsedBlock) (content : String) : List (String × Value) :=
  [("blocks_parsed", .list (ParsedBlock.toValues blocks)), ("content", .str content)]

/-- The debug data if it is wanted, which cannot be made of parsed blocks that hooks have spoilt. -/
def echo (p : Parser) (spoilt : Option Fault) (blocks : List ParsedBlock) (content : String) :
    Except Fault (Option (List (String × Value))) :=
  if !p.settings.debug then .ok none
  else match spoilt with
    | some fault => .error fault
    | none => .ok (some (debugData blocks content))

/-- Tokenizes and sources. Free text that is blank is left out at the top. -/
def parseBlocks (p : Parser) (r : Request) : Sourcing ParseResult := do
  let tokens ← Sourcing.ofExcept (p.tokenize r.content)
  let blocks := tokens.filter fun b => !b.isWhitespace
  Sourcing.note (Log.record .debug .parser
    ("Tokenized " ++ toString blocks.length ++ " top-level block(s)") ⟨r.postId, none⟩)
  let (parsed, sourced) ← (p.plan r).sourceAll 0 blocks
  let journal ← get
  let debug ← Sourcing.ofExcept (p.echo journal.spoilt parsed r.content)
  return {
    blocks := sourced.map (·.settle ⟨journal.metadata, ParsedBlock.attrsAmong parsed⟩)
    warnings := journal.warnings
    debug }

/-- Tells the recorder; its fault is only noted. -/
def recordUse (p : Parser) (j : Journal) : Journal :=
  let j := { j with uses := j.uses + 1 }
  match p.recorder with
  | .logging => j.note (Log.record .debug .analytics "Block data parse requested" .none)
  | .silent => j
  | .failing fault =>
    j.note (Log.record .debug .parser ("Usage recording failed: " ++ fault.text) .none)

/-- Notes the fault that has stopped the work on a request. -/
def noteFault (r : Request) (fault : Fault) (j : Journal) : Journal :=
  j.note (Log.record .error .parser ("Error parsing post: " ++ fault.text) ⟨r.postId, none⟩)

/-- Notes that a request is turned down, and with which failure. -/
def noteRejected (r : Request) (f : ParseFailure) (j : Journal) : Journal :=
  j.note (Log.record .info .parser
    ("Parse rejected (" ++ f.kind.code ++ "): " ++ f.message) ⟨r.postId, none⟩)

/-- How a request ends for which a failure is to be handed out. -/
def reject (r : Request) (failure : Except Fault ParseFailure) (reporting : Option Fault)
    (j : Journal) : ParseOutcome × Journal :=
  match failure with
  | .ok f => (.error (.failure f), noteRejected r f j)
  | .error fault => (.error (.raised fault reporting), j)

/-- Parses the content of a post. Warnings are those of this parse alone, and its tokenized blocks are
new ones. -/
def parse (p : Parser) (r : Request) (j : Journal) : ParseOutcome × Journal :=
  let j := p.recordUse j
  match p.refusal? r with
  | .error fault => reject r (.error fault) none j
  | .ok (some failure) => reject r (.ok failure) none j
  | .ok none =>
    match (p.parseBlocks r).run.run { j with warnings := [], spoilt := none } with
    | (.ok result, j) => (.ok result, j)
    | (.error fault, j) => reject r (faultFailure r.postId fault) (some fault) (noteFault r fault j)

end Parser
end EditorBlocks
