import EditorBlocks.Data.Calendar
import EditorBlocks.Data.Entries
/-!
Data reduced to what JSON can hold: days and times become text, sets and pairs lists, keys names,
and numbers that are not finite null.
-/

namespace EditorBlocks.Value

/-- The name that a key becomes. -/
def keyText : Value → String
  | str s => s
  | null => "None"
  | bool b => if b then "true" else "false"
  | int n => toString n
  | float x => x.toText
  | date d => d.text
  | moment m => m.shortText
  | bytes octets => String.ofList (octets.map Char.ofNat)
  | _ => ""

mutual
def reduced : Value → Value
  | float .nan | float (.infinity _) => null
  | date d => str d.text
  | moment m => str m.shortText
  | bytes octets => str (String.ofList (octets.map Char.ofNat))
  | list items => list (reducedItems items)
  | set members => list (reducedItems members)
  | pair a b => list [reduced a, reduced b]
  | map entries => object (Entries.ofList (reducedEntries entries))
  | v => v

def reducedItems : List Value → List Value
  | [] => []
  | v :: rest => reduced v :: reducedItems rest

def reducedEntry : Value × Value → String × Value
  | (k, v) => (keyText k, reduced v)

def reducedEntries : List (Value × Value) → List (String × Value)
  | [] => []
  | e :: rest => reducedEntry e :: reducedEntries rest
end

end EditorBlocks.Value
