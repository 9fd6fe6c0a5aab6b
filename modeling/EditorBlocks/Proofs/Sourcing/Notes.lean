import EditorBlocks.Proofs.Sourcing.Warnings
/-! What is noted while blocks are sourced: besides the notes of resolution, which blocks have been
left out and which have no registered type. -/

namespace EditorBlocks

namespace Sourcing
variable {α β : Type} {P : Log.Record → Prop} {x : Sourcing α} {f : α → Sourcing β}

/-- A computation adds records only, also if it fails, and each of them has a property. -/
def Notes (P : Log.Record → Prop) (x : Sourcing α) : Prop :=
  ∀ j : Journal, ∃ added, (x.ends j).2.records = j.records ++ added ∧ ∀ r ∈ added, P r

theorem notes_of_records (h : ∀ j : Journal, (x.ends j).2.records = j.records) : Notes P x :=
  fun j => ⟨[], (h j).trans (List.append_nil _).symm, List.forall_mem_nil _⟩

theorem notes_pure (a : α) : Notes P (pure a : Sourcing α) := notes_of_records fun _ => rfl

theorem notes_get : Notes P (get : Sourcing Journal) := notes_of_records fun _ => rfl

theorem notes_ofNoted {y : Log.Noted Fault α} (h : y.Notes P) : Notes P (ofNoted y) := by
  intro j
  rw [ends_ofNoted]
  exact ⟨y.records, rfl, h⟩

theorem notes_ofExcept (outcome : Except Fault α) : Notes P (ofExcept outcome) :=
  notes_of_records fun _ => rfl

theorem Notes.bind (hx : Notes P x) (hf : ∀ a, Notes P (f a)) : Notes P (x >>= f) := by
  intro j
  obtain ⟨added, hadded, hP⟩ := hx j
  rw [ends_bind]
  generalize x.ends j = ended at hadded
  obtain ⟨outcome, i⟩ := ended
  cases outcome with
  | error e => exact ⟨added, hadded, hP⟩
  | ok a =>
    obtain ⟨more, hmore, hPmore⟩ := hf a i
    refine ⟨added ++ more, ?_, List.forall_mem_append.mpr ⟨hP, hPmore⟩⟩
    rw [← List.append_assoc, ← hadded]
    exact hmore

end Sourcing

namespace SourcingPlan
variable {plan : SourcingPlan} {P : Log.Record → Prop} {name : Option String}

/-- The record of a block that is left out. -/
def skippedRecord (plan : SourcingPlan) (name : Option String) : Log.Record :=
  Log.record .debug .blocks ("Skipping block " ++ name.getD "None") (plan.context name)

theorem notes_process (name : Option String) (postId : Option Int) (block : ParsedBlock)
    (number : Nat) (sourced : Draft) (processors : List Processor) :
    Sourcing.Notes P (process name postId block number sourced processors) := by
  refine Sourcing.notes_of_records fun j => ?_
  induction processors generalizing j block number sourced with
  | nil => rfl
  | cons processor rest ih =>
    rw [ends_process_cons]
    generalize (processor sourced name postId block).run.run (j.changeable block.attrsAt) = ended
    obtain ⟨answer, shared⟩ := ended
    cases answer with
    | error e => rfl
    | ok next => exact ih _ _ _ _

/-- What has to be noted of a block: that it is left out, or that its type is not registered. -/
structure MayNote (plan : SourcingPlan) (P : Log.Record → Prop) (block : ParsedBlock) : Prop where
  skipped : plan.admitted block = false → P (plan.skippedRecord block.name)
  missing : plan.typeOf block.name = none → P (plan.missingRecord block.name)

theorem notes_sourceAdmitted (hP : ∀ r, ResolutionNote r → P r) (block : ParsedBlock)
    (hinner : Sourcing.Notes P (plan.sourceAll 0 block.inner)) :
    Sourcing.Notes P (plan.sourceAdmitted block) := by
  have hattributes (metadata : Metadata) : (plan.attributesOf metadata block).Notes P :=
    fun r hr => hP r (notes_sourceEach _ _ r hr)
  refine Sourcing.notes_get.bind fun j => (Sourcing.notes_ofNoted (hattributes _)).bind
    fun attributes => hinner.bind fun found => (Sourcing.notes_ofExcept _).bind fun debug => ?_
  exact (notes_process _ _ _ _ _ _).bind fun _ => Sourcing.notes_pure _

theorem exists_lookedUp (block : ParsedBlock) (h : plan.MayNote P block) (j : Journal) :
    ∃ added, (plan.lookedUp block.name j).records = j.records ++ added ∧ ∀ r ∈ added, P r := by
  unfold lookedUp
  split
  · rename_i hmissing
    refine ⟨[plan.missingRecord block.name], Journal.warn_records _ _, ?_⟩
    exact List.forall_mem_singleton.mpr (h.missing (Option.isNone_iff_eq_none.mp hmissing))
  · exact ⟨[], (List.append_nil _).symm, List.forall_mem_nil _⟩

mutual
/-- While a block is sourced, only what may be noted of it and of the blocks inside is noted. -/
theorem notes_source (hP : ∀ r, ResolutionNote r → P r) : ∀ b : ParsedBlock,
    (∀ c ∈ b.entered fun _ => true, plan.MayNote P c) → Sourcing.Notes P (plan.source b)
  | .mk name attrs html inner, h => by
    rw [ParsedBlock.entered, if_pos rfl] at h
    obtain ⟨hblock, hinner⟩ := List.forall_mem_cons.mp h
    have hadmitted := notes_sourceAdmitted hP (.mk name attrs html inner)
      (notes_sourceAll hP inner hinner 0)
    intro j
    obtain ⟨calls, hcalls⟩ := plan.ends_isIncluded_verdict (.mk name attrs html inner) j
    rw [ends_source, hcalls]
    cases hverdict : plan.verdict (.mk name attrs html inner) with
    | error e => exact ⟨[], (List.append_nil _).symm, List.forall_mem_nil _⟩
    | ok answer =>
      cases answer with
      | false =>
        refine ⟨[plan.skippedRecord name], rfl, List.forall_mem_singleton.mpr (hblock.skipped ?_)⟩
        rw [admitted, hverdict]
      | true =>
        obtain ⟨looked, hlooked, hPlooked⟩ := exists_lookedUp _ hblock (j.calledAll calls)
        obtain ⟨added, hadded, hPadded⟩ := hadmitted (plan.lookedUp name (j.calledAll calls))
        refine ⟨looked ++ added, ?_, List.forall_mem_append.mpr ⟨hPlooked, hPadded⟩⟩
        rw [← List.append_assoc]
        exact hadded.trans (congrArg (· ++ added) hlooked)

theorem notes_sourceAll (hP : ∀ r, ResolutionNote r → P r) : ∀ bs : List ParsedBlock,
    (∀ c ∈ ParsedBlock.enteredOfList (fun _ => true) bs, plan.MayNote P c) →
      ∀ number, Sourcing.Notes P (plan.sourceAll number bs)
  | [], _, number => by
    rw [sourceAll]
    exact Sourcing.notes_pure _
  | b :: rest, h, number => by
    rw [ParsedBlock.enteredOfList, List.forall_mem_append] at h
    rw [sourceAll]
    exact (notes_source hP b h.1).bind fun _ => (notes_sourceAll hP rest h.2 _).bind fun _ =>
      Sourcing.notes_pure _
end

end SourcingPlan
end EditorBlocks
