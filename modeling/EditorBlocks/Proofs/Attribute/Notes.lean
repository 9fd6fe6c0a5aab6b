import EditorBlocks.Sourcing.Blocks
/-! What is noted while attributes are resolved: how many elements a selector has found, and which
metadata a post does not have. -/

namespace EditorBlocks

namespace Log.Noted
variable {ε α β : Type} {P : Record → Prop} {x : Noted ε α} {f : α → Noted ε β}

/-- All records that a computation makes have a property, also if it fails. -/
def Notes (P : Record → Prop) (x : Noted ε α) : Prop := ∀ r ∈ x.records, P r

theorem notes_pure (a : α) : Notes P (pure a : Noted ε α) := by
  intro r hr
  cases hr

theorem notes_ofExcept (outcome : Except ε α) : Notes P (ofExcept outcome) := by
  intro r hr
  cases hr

theorem notes_note {r : Record} (h : P r) : Notes P (note r : Noted ε Unit) := by
  intro r' hr
  rwa [List.mem_singleton.mp hr]

theorem notes_bind (hx : Notes P x) (hf : ∀ a, Notes P (f a)) : Notes P (x >>= f) := by
  change Notes P (bind x f)
  unfold bind
  cases x.outcome with
  | error e => exact hx
  | ok a =>
    intro r hr
    rcases List.mem_append.mp hr with hr | hr
    · exact hx r hr
    · exact hf a r hr

theorem notes_map (g : α → β) (hx : Notes P x) : Notes P (g <$> x) := by
  rw [← bind_pure_comp]
  exact notes_bind hx fun a => notes_pure (g a)

theorem notes_mapM (as : List α) (hf : ∀ a, Notes P (f a)) : Notes P (as.mapM f) := by
  induction as with
  | nil => exact notes_pure []
  | cons a rest ih =>
    rw [List.mapM_cons]
    exact notes_bind (hf a) fun b => notes_bind ih fun bs => notes_pure _

end Log.Noted

/-- The records that resolution makes. -/
inductive ResolutionNote : Log.Record → Prop
  | matched (selector : String) (count : Nat) : ResolutionNote (Log.record .debug .selectors
      ("Selector " ++ Text.quoted selector ++ " matched " ++ toString count ++ " element(s)") .none)
  | absent (key : String) (post : Int) : ResolutionNote (Log.record .debug .attributes
      ("No meta " ++ Text.quoted key ++ " for post " ++ toString post) .none)

theorem ResolutionNote.level {r : Log.Record} (h : ResolutionNote r) : r.level = .debug := by
  cases h <;> rfl

section Notes
open Log Log.Noted
variable {data : PostData} {s m : Scope}

theorem Scope.notes_narrowed (selector : String) : Notes ResolutionNote (s.narrowed selector) :=
  notes_bind (notes_ofExcept _) fun found =>
    notes_bind (notes_note (.matched selector found.count)) fun _ => notes_pure found

theorem Scope.notes_narrowedBy (selector : Option String) :
    Notes ResolutionNote (s.narrowedBy selector) := by
  cases selector with
  | none => exact notes_pure s
  | some selector => exact notes_narrowed selector

namespace AttributeRule
variable {rule : AttributeRule}

theorem notes_linesHtml (selector : String) : Notes ResolutionNote (linesHtml s selector) :=
  notes_bind (Scope.notes_narrowed selector) fun _ => notes_pure _

theorem notes_noteAbsent (post : Int) (key : String) :
    Notes ResolutionNote (noteAbsent post key) := by
  unfold noteAbsent
  cases hpost : Text.fitsDigitLimit post with
  | true =>
    rw [postText_of_fits hpost]
    exact notes_note (.absent key post)
  | false =>
    rw [postText_of_not_fits hpost]
    exact notes_ofExcept (.error Fault.longNumber)

theorem notes_metadataValue (key : Option String) :
    Notes ResolutionNote (metadataValue data key) := by
  unfold metadataValue
  split
  · rename_i post key _
    split
    · exact notes_bind (notes_noteAbsent post key) fun _ => notes_pure none
    · exact notes_pure none
    · exact notes_pure _
  · exact notes_pure none

theorem notes_find : Notes ResolutionNote (rule.find data s) := by
  have hnarrowed := Scope.notes_narrowedBy (s := s) rule.selector
  unfold find
  split
  case h_1 | h_2 => exact notes_pure none
  case h_5 =>
    refine notes_bind hnarrowed fun found => ?_
    split
    · exact notes_pure none
    · split
      · exact notes_pure _
      · exact notes_map some (notes_linesHtml _)
  case h_9 => exact notes_pure _
  case h_10 => exact notes_metadataValue rule.metaKey
  all_goals exact notes_bind hnarrowed fun _ => notes_pure _

end AttributeRule

namespace AttributeDefinition

mutual
theorem notes_resolve : ∀ (d : AttributeDefinition) (s : Scope),
    Notes ResolutionNote (d.resolve data s)
  | .mk rule query, s => by
    rw [resolve]
    split
    · exact notes_bind (Scope.notes_narrowedBy rule.selector) fun matched =>
        notes_bind (notes_mapM _ fun m => notes_resolveQuery query m) fun records => notes_pure _
    · exact notes_bind AttributeRule.notes_find fun found => notes_pure _

theorem notes_resolveQuery : ∀ (query : Option (List (String × AttributeDefinition))) (m : Scope),
    Notes ResolutionNote (resolveQuery data m query)
  | none, _ => notes_pure []
  | some items, m => notes_resolveItems items m

theorem notes_resolveItems : ∀ (items : List (String × AttributeDefinition)) (m : Scope),
    Notes ResolutionNote (resolveItems data m items)
  | [], _ => notes_pure []
  | item :: rest, m => notes_bind (notes_resolveItem item m) fun _ =>
      notes_bind (notes_resolveItems rest m) fun _ => notes_pure _

theorem notes_resolveItem : ∀ (item : String × AttributeDefinition) (m : Scope),
    Notes ResolutionNote (resolveItem data m item)
  | (_, d), m => notes_bind (notes_resolve d m) fun _ => notes_pure _
end

end AttributeDefinition

/-- The records of sourcing are those that the definitions make. -/
theorem SourcingPlan.notes_sourceEach (definitions : List (String × AttributeDefinition))
    (attributes : List (String × Held)) :
    Notes ResolutionNote (sourceEach data s definitions attributes) := by
  induction definitions generalizing attributes with
  | nil => exact notes_pure attributes
  | cons e rest ih =>
    obtain ⟨name, d⟩ := e
    unfold sourceEach
    split
    · refine notes_bind (d.notes_resolve s) fun found => ?_
      cases found with
      | none => exact ih attributes
      | some value => exact ih _
    · split
      · split
        · exact ih attributes
        · exact ih _
      · exact ih attributes

end Notes

end EditorBlocks
