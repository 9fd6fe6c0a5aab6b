import EditorBlocks.Attribute.Definition
import EditorBlocks.Input.Error
/-!
The registry of block types: each name has one definition, the last one given, at the place where
the name first came.
-/

namespace EditorBlocks

structure Registry where
  types : List (String × BlockType)
  deriving Repr

namespace Registry

def empty : Registry := ⟨[]⟩

def ofTypes (types : List BlockType) : Registry :=
  ⟨Entries.ofList (types.map fun t => (t.name, t))⟩

def find? (r : Registry) (name : String) : Option BlockType := Entries.find? name r.types

def names (r : Registry) : List String := Entries.keys r.types

def size (r : Registry) : Nat := r.types.length

/-- The body of an entry with the entry's key as its name; anything that counts as false is an
empty body. -/
def namedBody (key body : Value) : Except InputError Value :=
  match body with
  | .map es => .ok (.map (Value.putKey (.str "name") key es))
  | body => if body.isTruthy then .error .unusableBody else .ok (.map [(.str "name", key)])

/-- The first invalid entry decides the error. -/
def checkAll : List Value → Except InputError (List BlockType)
  | [] => .ok []
  | v :: rest =>
    match BlockType.check v with
    | .invalid complaints => .error (.invalidBlockType complaints)
    | .valid t => (checkAll rest).map (t :: ·)

/-- A registry given as a list of definitions, or as a mapping from names to their bodies. -/
def ofData : Value → Except InputError Registry
  | .map es => do ofTypes <$> checkAll (← es.mapM fun e => namedBody e.1 e.2)
  | .list vs => ofTypes <$> checkAll vs
  | v => .error (.unsupportedRegistry v)

end Registry
end EditorBlocks
