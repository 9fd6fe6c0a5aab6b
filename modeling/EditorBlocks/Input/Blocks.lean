import EditorBlocks.Block.Parsed
import EditorBlocks.Input.Error
import EditorBlocks.Text.Occurrence
/-!
Block lists that have been tokenized ahead of time.
-/

namespace EditorBlocks.ParsedBlock

/-- The first invalid block decides the error. -/
def checkAll : List Value → Except InputError (List ParsedBlock)
  | [] => .ok []
  | v :: rest =>
    match check v with
    | .invalid complaints => .error (.invalidBlock complaints)
    | .valid b => (checkAll rest).map (b :: ·)

/-- The blocks that data lists. -/
def listOfData : Value → Except InputError (List ParsedBlock)
  | .list vs => checkAll vs
  | _ => .error .blocksNotList

end EditorBlocks.ParsedBlock

namespace EditorBlocks

/-- What begins the delimiter of a block in post content. -/
def defaultMarker : String := "<!-- wp:"

/-- Whether content has at least one block delimiter. -/
def hasBlocks (content marker : String) : Bool := Text.occursIn marker.toList content.toList

end EditorBlocks
