import EditorBlocks.Hook.Rule
import EditorBlocks.Proofs.Attribute.Lookups
/-! Processors that know the metadata only by the values they hold. -/

namespace EditorBlocks

/-- What a computation does in place depends on the values that the metadata tells. -/
def Confined {α : Type} (x : ExceptT Fault (StateM Changeable) α) : Prop :=
  ∀ ⦃m n : Metadata⦄, m.TellsAlike n → ∀ attrs spoilt, ∃ outcome attrs' spoilt' m' n',
    x.run.run ⟨⟨m, attrs⟩, spoilt⟩ = (outcome, ⟨⟨m', attrs'⟩, spoilt'⟩) ∧
    x.run.run ⟨⟨n, attrs⟩, spoilt⟩ = (outcome, ⟨⟨n', attrs'⟩, spoilt'⟩) ∧ m'.TellsAlike n'

/-- The work of a processor is confined. -/
def Processor.IsConfined (q : Processor) : Prop :=
  ∀ sourced name postId block, Confined (q sourced name postId block)

/-- Whatever a processor does, the metadata tells the same values afterwards. -/
def Processor.KeepsMetadata (q : Processor) : Prop :=
  ∀ sourced name postId block s,
    ((q sourced name postId block).run.run s).2.metadata.TellsAlike s.metadata

section Confined
variable {α β : Type} {x : ExceptT Fault (StateM Changeable) α}
  {f : α → ExceptT Fault (StateM Changeable) β}

theorem confined_pure (a : α) : Confined (pure a : ExceptT Fault (StateM Changeable) α) := by
  intro m n h attrs spoilt
  exact ⟨_, _, _, _, _, rfl, rfl, h⟩

theorem confined_throw (fault : Fault) :
    Confined (throw fault : ExceptT Fault (StateM Changeable) α) := by
  intro m n h attrs spoilt
  exact ⟨_, _, _, _, _, rfl, rfl, h⟩

theorem run_bind_changeable (s : Changeable) : (x >>= f).run.run s =
    match x.run.run s with
    | (.ok a, t) => (f a).run.run t
    | (.error fault, t) => (.error fault, t) := by
  simp only [ExceptT.run_bind, StateT.run_bind]
  generalize x.run.run s = ended
  obtain ⟨outcome, t⟩ := ended
  cases outcome <;> rfl

theorem confined_bind (hx : Confined x) (hf : ∀ a, Confined (f a)) : Confined (x >>= f) := by
  intro m n h attrs spoilt
  obtain ⟨outcome, attrs', spoilt', m', n', hm, hn, h'⟩ := hx h attrs spoilt
  rw [run_bind_changeable, run_bind_changeable, hm, hn]
  cases outcome with
  | error fault => exact ⟨_, _, _, _, _, rfl, rfl, h'⟩
  | ok a => exact hf a h' attrs' spoilt'

end Confined

/-- A change in place sees the values that are told, and nothing else of the metadata. -/
theorem Held.append_alike {m n : Metadata} (h : m.TellsAlike n) (attrs : PlacedAttrs)
    (item : Value) (held : Held) : ∃ held' attrs' m' n',
      held.append ⟨m, attrs⟩ item = (held', ⟨m', attrs'⟩) ∧
      held.append ⟨n, attrs⟩ item = (held', ⟨n', attrs'⟩) ∧ m'.TellsAlike n' := by
  cases held with
  | own v =>
    cases v <;> exact ⟨_, _, _, _, rfl, rfl, h⟩
  | list items => exact ⟨_, _, _, _, rfl, rfl, h⟩
  | record members => exact ⟨_, _, _, _, rfl, rfl, h⟩
  | explicit place name =>
    have hsame : Shared.explicit ⟨m, attrs⟩ place name = Shared.explicit ⟨n, attrs⟩ place name := rfl
    simp only [append]
    rw [← hsame]
    cases Shared.explicit ⟨m, attrs⟩ place name <;> exact ⟨_, _, _, _, rfl, rfl, h⟩
  | stored post key =>
    have hm : Shared.stored ⟨m, attrs⟩ post key = m.tells post key := rfl
    have hn : Shared.stored ⟨n, attrs⟩ post key = m.tells post key := (h.values post key).symm
    simp only [append]
    rw [hm, hn]
    cases hv : m.tells post key with
    | list items => exact ⟨_, _, _, _, rfl, rfl, h.update (by simp [hv])⟩
    | _ => exact ⟨_, _, _, _, rfl, rfl, h⟩

namespace ProcessorRule

theorem confined_attributesOr (fault : Fault) (d : Draft) : Confined (attributesOr fault d) := by
  unfold attributesOr
  cases d.attributes with
  | none => exact confined_throw fault
  | some attributes => exact confined_pure attributes

theorem confined_put (key : String) (value : Value) (d : Draft) : Confined (put key value d) :=
  confined_bind (confined_attributesOr _ d) fun _ => confined_pure _

theorem confined_appendTo (key : String) (item : Value) (d : Draft) :
    Confined (appendTo key item d) := by
  apply confined_bind (confined_attributesOr _ d)
  intro attributes
  cases Entries.find? key attributes with
  | none => exact confined_pure d
  | some held =>
    intro m n h attrs spoilt
    obtain ⟨held', attrs', m', n', hm, hn, h'⟩ := held.append_alike h attrs item
    refine ⟨.ok (d.withAttributes (some (Entries.put key held' attributes))), attrs', spoilt, m', n',
      ?_, ?_, h'⟩
    · change (Except.ok (d.withAttributes (some (Entries.put key
        (held.append ⟨m, attrs⟩ item).1 attributes))),
          (⟨(held.append ⟨m, attrs⟩ item).2, spoilt⟩ : Changeable)) = _
      rw [hm]
    · change (Except.ok (d.withAttributes (some (Entries.put key
        (held.append ⟨n, attrs⟩ item).1 attributes))),
          (⟨(held.append ⟨n, attrs⟩ item).2, spoilt⟩ : Changeable)) = _
      rw [hn]

/-- All ready-made processors are confined, also those that change values in place. -/
theorem toProcessor_isConfined (rule : ProcessorRule) : rule.toProcessor.IsConfined := by
  intro d name postId block
  change Confined (apply d name postId block rule)
  induction rule with
  | assign key value => exact confined_put key value d
  | setDefault key value =>
    apply confined_bind (confined_attributesOr _ d)
    intro attributes
    by_cases hk : Entries.has key attributes
    · simp only [hk, ↓reduceIte]
      exact confined_pure d
    · simp only [hk]
      exact confined_put key value d
  | append key item => exact confined_appendTo key item d
  | remove key => exact confined_bind (confined_attributesOr _ d) fun _ => confined_pure _
  | rename newName => exact confined_bind (confined_attributesOr _ d) fun _ => confined_pure _
  | clear => exact confined_pure _
  | dropInner => exact confined_pure _
  | reverseInner => exact confined_pure _
  | context => exact confined_put _ _ d
  | only wanted rule ih =>
    rw [apply]
    split
    · exact ih
    · exact confined_pure d
  | fail fault => exact confined_throw fault

/-- Whether a rule changes a value in place. -/
def appends : ProcessorRule → Bool
  | append _ _ => true
  | only _ rule => rule.appends
  | _ => false

/-- What can be changed in place stays as it is, unless a rule appends something. -/
theorem apply_unchanged (d : Draft) (name : Option String) (postId : Option Int)
    (block : ParsedBlock) (s : Changeable) {rule : ProcessorRule} (h : rule.appends = false) :
    ((apply d name postId block rule).run.run s).2 = s := by
  induction rule with
  | append key item => cases h
  | setDefault key value =>
    unfold apply put attributesOr
    cases d.attributes with
    | none => rfl
    | some attributes =>
      change ((if Entries.has key attributes then _ else _ : Step Draft).run.run s).2 = s
      split <;> rfl
  | only wanted rule ih =>
    unfold apply
    split
    · exact ih h
    · rfl
  | clear => rfl
  | dropInner => rfl
  | reverseInner => rfl
  | fail fault => rfl
  | _ =>
    simp only [apply, put, attributesOr]
    cases d.attributes <;> rfl

theorem toProcessor_keepsMetadata {rule : ProcessorRule} (h : rule.appends = false) :
    rule.toProcessor.KeepsMetadata := by
  intro d name postId block s
  rw [toProcessor, apply_unchanged d name postId block s h]
  exact .refl _

end ProcessorRule
end EditorBlocks
