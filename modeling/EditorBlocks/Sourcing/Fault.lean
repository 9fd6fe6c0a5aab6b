import EditorBlocks.Selector.Read
import EditorBlocks.Text.Digit
import EditorBlocks.Text.Quoted
/-!
Faults: what stops the reading of a post, and the failures that are reported for them.
-/

namespace EditorBlocks

/-- The kinds of failures that are reported, each with its code and status. -/
inductive FailureKind
  | unspecified
  | configuration
  | invalidParams
  | noBlocks
  | parser
  deriving DecidableEq, Repr

namespace FailureKind

def code : FailureKind → String
  | unspecified => "error"
  | configuration => "configuration-error"
  | invalidParams => "invalid-params"
  | noBlocks => "no-blocks"
  | parser => "parser-error"

def status : FailureKind → Int
  | invalidParams | noBlocks => 400
  | unspecified | configuration | parser => 500

end FailureKind

/-- What goes wrong inside a hook, a tokenizer or the sourcing of a block. -/
inductive Fault
  | value (message : String)
  | key (message : String)
  | runtime (message : String)
  /-- a failure of a reported kind -/
  | failure (kind : FailureKind) (message : String)
  | selector (error : SelectorError)
  /-- attributes that have been taken away are written to -/
  | unassignable
  /-- attributes that have been taken away are asked for a change -/
  | unchangeable
  /-- a block is made without attributes -/
  | unattributed
  /-- a whole number has too many digits to be written -/
  | longNumber
  /-- definitions are nested too deep to be shown -/
  | tooDeep
  deriving DecidableEq, Repr

/-- The text of a fault. That of a missing key is quoted. -/
def Fault.text : Fault → String
  | value message | runtime message | failure _ message => message
  | key message => Text.quoted message
  | selector error => error.message
  | unassignable => "No attributes to write to"
  | unchangeable => "No attributes to change"
  | unattributed => "No attributes for a block"
  | longNumber => "Exceeds the limit (4300 digits) for integer string conversion; " ++
      "use sys.set_int_max_str_digits() to increase the limit"
  | tooDeep => "Circular reference detected (depth exceeded)"

/-- The number of a post as messages write it. -/
def postText (post : Int) : Except Fault String :=
  match Text.intText? post with
  | some text => .ok text
  | none => .error .longNumber

theorem postText_of_fits {post : Int} (h : Text.fitsDigitLimit post) :
    postText post = .ok (toString post) := by
  rw [postText, Text.intText?_of_fits h]

theorem postText_of_not_fits {post : Int} (h : Text.fitsDigitLimit post = false) :
    postText post = .error .longNumber := by
  rw [postText, Text.intText?_eq_none.mpr h]

end EditorBlocks
