import EditorBlocks.Hook.Basic
import EditorBlocks.Log.Noted
/-!
The journal of a session: what is noted while posts are parsed. It stays when a parse fails.
-/

namespace EditorBlocks

/-- Warnings for the caller, log records, calls of hooks, how often use was recorded, and what hooks
may change: the metadata, and the parsed blocks, which they may spoil. -/
structure Journal where
  warnings : List String
  records : List Log.Record
  calls : List HookCall
  uses : Nat
  metadata : Metadata
  spoilt : Option Fault

/-- A computation that keeps the journal and may end with a fault. -/
abbrev Sourcing := ExceptT Fault (StateM Journal)

namespace Journal

def start (metadata : Metadata) : Journal := ⟨[], [], [], 0, metadata, none⟩

/-- A warning is given once. -/
def warn (j : Journal) (warning : String) : Journal :=
  if j.warnings.contains warning then j else { j with warnings := j.warnings ++ [warning] }

def note (j : Journal) (r : Log.Record) : Journal := { j with records := j.records ++ [r] }

def called (j : Journal) (c : HookCall) : Journal := { j with calls := j.calls ++ [c] }

end Journal

namespace Sourcing
variable {α : Type}

def warn (warning : String) : Sourcing Unit := modify (·.warn warning)

def note (r : Log.Record) : Sourcing Unit := modify (·.note r)

def called (c : HookCall) : Sourcing Unit := modify (·.called c)

def ofExcept (x : Except Fault α) : Sourcing α := ExceptT.mk (pure x)

/-- Runs a noted computation; its notes go into the journal. -/
def ofNoted (x : Log.Noted Fault α) : Sourcing α := do
  modify fun j => { j with records := j.records ++ x.records }
  ofExcept x.outcome

/-- Runs a computation that can change things in place; what it changes stays changed. -/
def sharing (attrs : PlacedAttrs) (x : ExceptT Fault (StateM Changeable) α) :
    Sourcing (α × PlacedAttrs) := do
  let j ← get
  let (outcome, changed) := x.run.run ⟨⟨j.metadata, attrs⟩, j.spoilt⟩
  modify fun j => { j with metadata := changed.metadata, spoilt := changed.spoilt }
  return (← ofExcept outcome, changed.attrs)

end Sourcing
end EditorBlocks
