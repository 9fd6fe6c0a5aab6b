import EditorBlocks.Data.Checked
import EditorBlocks.Input.Blocks
/-!
Settings of a parser.
-/

namespace EditorBlocks

/-- Whether debug data is wanted, and what marks a block in content. -/
structure Settings where
  debug : Bool
  marker : String
  deriving DecidableEq, Repr

namespace Settings

/-- The texts that switch something on. -/
def onTexts : List String := ["1", "true", "yes", "on"]

/-- Whether a text switches something on; blanks around it and case are of no matter. -/
def isOn (text : String) : Bool := onTexts.contains (Text.lowerAscii (Text.trim text))

/-- Settings given as an object, where debug data may be wanted beforehand. -/
def check (debug : Bool) : Value → Checked Settings
  | .map es =>
    mk <$> Checked.memberOr debug "debug" Checked.boolean es
      <*> Checked.memberOr defaultMarker "block_marker" Checked.text es
  | _ => .refuse .notObject

end Settings
end EditorBlocks
