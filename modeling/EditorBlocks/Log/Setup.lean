import EditorBlocks.Log.Record
/-!
The set-up of logging: from which level on records are shown, and in which form.
-/

namespace EditorBlocks.Log

/-- The forms of shown records. -/
inductive Display
  | rich
  | json
  | compact
  deriving DecidableEq, Repr

/-- The form that a name asks for; names of no form ask for short lines. -/
def Display.ofName : String → Display
  | "rich" => rich
  | "json" => json
  | _ => compact

structure Setup where
  level : Level
  display : Display
  deriving DecidableEq, Repr

/-- What a level can be refused for. -/
inductive LevelProblem
  | unknownName
  | neitherNameNorNumber
  deriving DecidableEq, Repr

/-- A level given by name or by number. -/
def Level.ofValue : Value → Except LevelProblem Level
  | .int n => .ok n
  | .bool b => .ok (if b then 1 else 0)
  | .str s =>
    match ofName? s with
    | some level => .ok level
    | none => .error .unknownName
  | _ => .error .neitherNameNorNumber

def Setup.ofValues (level : Value) (display : String) : Except LevelProblem Setup := do
  return ⟨← Level.ofValue level, .ofName display⟩

/-- Records from this level on are shown. -/
def Setup.shows (s : Setup) (r : Record) : Bool := s.level ≤ r.level

end EditorBlocks.Log
