import EditorBlocks.Data.Entries
import EditorBlocks.Input.Error
/-!
Metadata of posts: named values for each post number.
-/

namespace EditorBlocks

structure Metadata where
  posts : List (Int × List (String × Value))
  deriving Repr

namespace Metadata

def empty : Metadata := ⟨[]⟩

/-- The value of a post under a key, null included. -/
def find? (m : Metadata) (post : Int) (key : String) : Option Value :=
  (Entries.find? post m.posts).bind (Entries.find? key)

/-- Changes one value that is there. -/
def update (m : Metadata) (post : Int) (key : String) (value : Value) : Metadata :=
  match Entries.find? post m.posts with
  | some values => ⟨Entries.put post (Entries.put key value values) m.posts⟩
  | none => m

/-- Whether a message can tell a key: not if a number in it has too many digits. -/
def isTellable : Value → Bool
  | .int n => Text.fitsDigitLimit n
  | .pair a b => isTellable a && isTellable b
  | _ => true

/-- The error of an entry that cannot be used. -/
def refusal (key : Value) : InputError :=
  if isTellable key then .invalidPost key else .oversizedNumber

/-- The number that a key gives a post: a whole number, text that spells one, or a number cut to
its whole part. -/
def postNumber (key : Value) : Except InputError Int :=
  let refused := .error (refusal key)
  match key with
  | .int n => .ok n
  | .bool b => .ok (if b then 1 else 0)
  | .str s => ((Text.parseInt? s).map Except.ok).getD refused
  | .float (.infinity _) => .error .infinitePost
  | .float x => (x.truncate?.map Except.ok).getD refused
  | .bytes octets =>
    if octets.all (· < 128) then
      ((Text.parseInt? (String.ofList (octets.map Char.ofNat))).map Except.ok).getD refused
    else refused
  | _ => refused

def isScalar : Value → Bool
  | .list _ | .map _ | .set _ => false
  | .pair a b => isScalar a && isScalar b
  | _ => true

/-- The two parts of something that has exactly two. -/
def twoParts? : Value → Option (Value × Value)
  | .list [a, b] | .pair a b | .set [a, b] | .map [(a, _), (b, _)] => some (a, b)
  | .str s =>
    match s.toList with
    | [a, b] => some (.str a.toString, .str b.toString)
    | _ => none
  | .bytes [a, b] => some (.int a, .int b)
  | _ => none

/-- Entries given one by one, each as a thing of two parts with a scalar first. -/
def entriesOfItems? : List Value → Option (List (Value × Value))
  | [] => some []
  | v :: rest => do
    let (k, x) ← twoParts? v
    if isScalar k then (entriesOfItems? rest).map ((k, x) :: ·) else none

/-- The entries of a mapping, or of a list of entries; empty text stands for none. -/
def entries? : Value → Option (List (Value × Value))
  | .map es => some es
  | .list vs | .set vs => entriesOfItems? vs
  | .pair a b => entriesOfItems? [a, b]
  | .str s => if s.isEmpty then some [] else none
  | .bytes octets => if octets.isEmpty then some [] else none
  | _ => none

/-- The entries that can be looked up, which are those under names. -/
def namedEntries (es : List (Value × Value)) : List (String × Value) :=
  Entries.ofList (es.filterMap fun
    | (.str k, v) => some (k, v)
    | _ => none)

/-- Puts the values of one post in place of earlier ones. -/
def addPost (m : Metadata) (key values : Value) : Except InputError Metadata :=
  match entries? values with
  | none => .error (refusal key)
  | some es => do
    let post ← postNumber key
    .ok ⟨Entries.put post (namedEntries es) m.posts⟩

/-- Metadata given as a mapping from posts to their values; anything that counts as false is
empty. -/
def ofData : Value → Except InputError Metadata
  | .map es => es.foldlM (fun m e => m.addPost e.1 e.2) empty
  | v => if v.isTruthy then .error .unusableMetadata else .ok empty

end Metadata
end EditorBlocks
