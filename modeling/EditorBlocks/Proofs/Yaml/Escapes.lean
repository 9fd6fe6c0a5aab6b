import EditorBlocks.Data.Yaml.Layout
import Mathlib.Algebra.Group.Nat.Defs
/-! Escapes of characters that do not exist, and of halves of pairs: without them, a text has its
tokens or is malformed. -/

namespace EditorBlocks.Yaml

/-- What begins with an escape in eight digits of a number beyond all characters. -/
def BeginsFarEscape (cs : List Char) : Prop :=
  ∃ rest code, cs = '\\' :: 'U' :: rest ∧ Text.hexPrefix? 8 rest = some code ∧ 0x10FFFF < code

def HasFarEscape (cs : List Char) : Prop := ∃ ds, ds <:+ cs ∧ BeginsFarEscape ds

/-- Why a text has no tokens: it is malformed, or it has an escape that is too far or of half a
pair. -/
inductive HasProblem (cs : List Char) : Problem → Prop
  | malformed : HasProblem cs .malformed
  | far (h : HasFarEscape cs) : HasProblem cs .impossible
  | half (h : Text.HasHalfEscape cs) : HasProblem cs .loneSurrogate

theorem HasProblem.mono {cs ds : List Char} {p : Problem} (h : HasProblem cs p) (hs : cs <:+ ds) :
    HasProblem ds p := by
  cases h with
  | malformed => exact .malformed
  | far h =>
    obtain ⟨ts, hts, hfar⟩ := h
    exact .far ⟨ts, hts.trans hs, hfar⟩
  | half h => exact .half (h.mono hs)

/-- A step of reading tokens: what is left is an end of what was there, and if it fails, what was
there has the problem. -/
structure Lexes {α : Type} (cs : List Char) (left : α → List Char) (x : Except Problem α) : Prop where
  left : ∀ a, x = .ok a → left a <:+ cs
  problem : ∀ p, x = .error p → HasProblem cs p

section Lexes
variable {α β : Type} {cs ds : List Char} {left : α → List Char} {onwards : β → List Char}
  {x : Except Problem α} {f : α → Except Problem β}

theorem Lexes.mono (h : Lexes cs left x) (hs : cs <:+ ds) : Lexes ds left x where
  left a ha := (h.left a ha).trans hs
  problem p hp := (h.problem p hp).mono hs

theorem Lexes.bind (h : Lexes cs left x) (hf : ∀ a, left a <:+ cs → Lexes (left a) onwards (f a)) :
    Lexes cs onwards (x >>= f) := by
  cases x with
  | error e =>
    refine ⟨?_, fun p hp => h.problem p (congrArg Except.error (Except.error.inj hp))⟩
    intro _ hx
    cases hx
  | ok a => exact (hf a (h.left a rfl)).mono (h.left a rfl)

/-- What is left after a step may also be read again. -/
theorem Lexes.again (h : Lexes cs left x) : Lexes cs (fun _ => cs) x where
  left _ _ := List.suffix_rfl
  problem := h.problem

end Lexes

namespace Cursor
variable (c : Cursor)

theorem step_suffix : c.step.rest <:+ c.rest := by
  obtain ⟨rest, position, line, column⟩ := c
  cases rest with
  | nil => exact List.suffix_rfl
  | cons x rest =>
    simp only [step]
    split <;> exact List.suffix_cons x rest

theorem advance_suffix (n : Nat) : (c.advance n).rest <:+ c.rest := by
  induction n generalizing c with
  | zero => exact List.suffix_rfl
  | succ n ih => exact (ih c.step).trans c.step_suffix

end Cursor

/-! ### Quoted scalars -/

section Quoted
variable {α : Type}

end Quoted

/-! ### Plain scalars -/

section Plain

end Plain

/-! ### Block scalars -/

section Block

end Block

/-! ### Words -/

section Word

end Word

/-! ### Tokens -/

namespace Layout
variable (s : Layout)

/-- What is left to read. -/
def rest (s : Layout) : List Char := s.cursor.rest

end Layout

end EditorBlocks.Yaml
