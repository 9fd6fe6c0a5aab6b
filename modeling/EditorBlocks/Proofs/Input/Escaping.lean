import EditorBlocks.Proofs.CommandLine.Runs
import EditorBlocks.Proofs.Json.Digits
import EditorBlocks.Proofs.Yaml.Scalars
/-! Errors that escape: those of unusable data that are not reported as errors of configuration. -/

namespace EditorBlocks

/-- Ends with an error that is not one of configuration. -/
def Escapes {α : Type} (x : Except InputError α) : Prop :=
  ∃ e, x = .error e ∧ e.isConfiguration = false

section Escapes
variable {α β : Type} {x : Except InputError α} {f : α → Except InputError β}

end Escapes

namespace Registry

end Registry

namespace ParsedBlock

end ParsedBlock

namespace Metadata

/-- An entry that gives a post values. -/
structure IsPost (key values : Value) : Prop where
  numbered : ∃ post, postNumber key = .ok post
  listed : (entries? values).isSome

theorem addPost_eq_ok_iff {m : Metadata} {key values : Value} :
    (∃ n, m.addPost key values = .ok n) ↔ IsPost key values := by
  unfold addPost
  cases hvalues : entries? values with
  | none =>
    exact iff_of_false (fun ⟨_, h⟩ => by cases h) fun h => by simpa [hvalues] using h.listed
  | some es =>
    have hlisted : (entries? values).isSome := by rw [hvalues]; rfl
    cases hpost : postNumber key with
    | error e =>
      exact iff_of_false (fun ⟨_, h⟩ => by cases h) fun h => by simpa [hpost] using h.numbered
    | ok post => exact iff_of_true ⟨_, rfl⟩ ⟨⟨post, hpost⟩, hlisted⟩

end Metadata

/-! ### Files -/

namespace InputFile
variable {f : InputFile}

end InputFile

namespace CommandLine

end CommandLine

end EditorBlocks
