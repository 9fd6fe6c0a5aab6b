import EditorBlocks.Data.Checked
/-!
Block filters: the names of the blocks to keep, or of those to drop.
-/

namespace EditorBlocks

structure BlockFilter where
  keep : Option (List String)
  drop : Option (List String)
  deriving DecidableEq, Repr

namespace BlockFilter

def none : BlockFilter := ⟨.none, .none⟩

/-- Only one of the two lists may be given, empty or not. -/
def isConflicting (f : BlockFilter) : Bool := f.keep.isSome && f.drop.isSome

def names (list : Option (List String)) : List String := list.getD []

/-- Names to keep, if there are any, decide alone. A block without a name is in no list. -/
def allows (f : BlockFilter) (name : Option String) : Bool :=
  let listed (list : Option (List String)) : Bool := name.any (names list).contains
  if !(names f.keep).isEmpty then listed f.keep
  else if !(names f.drop).isEmpty then !listed f.drop
  else true

def check : Value → Checked BlockFilter
  | .map es =>
    mk <$> Checked.memberOr .none "include" (Checked.optional (Checked.list Checked.text)) es
      <*> Checked.memberOr .none "exclude" (Checked.optional (Checked.list Checked.text)) es
  | _ => .refuse .notObject

/-- Both lists as data, null ones left out if asked for. -/
def fields (withNulls : Bool) (f : BlockFilter) : Value :=
  let listed (list : Option (List String)) : Value :=
    (list.map fun names => Value.list (names.map .str)).getD .null
  .object ([("include", listed f.keep), ("exclude", listed f.drop)].filter fun m =>
    withNulls || !m.2.isNull)

end BlockFilter
end EditorBlocks
