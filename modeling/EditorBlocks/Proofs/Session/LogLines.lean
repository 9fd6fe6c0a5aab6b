import EditorBlocks.Proofs.Log.Compact
import EditorBlocks.Proofs.Session.Admission
import EditorBlocks.Proofs.Sourcing.Notes
/-! The log of a parse in lines for people: only block names and the texts of faults can break
lines. -/

namespace EditorBlocks

theorem ResolutionNote.isSingleLine {r : Log.Record} (h : ResolutionNote r) :
    r.context.blockName = none ∧ Text.isSingleLine r.message := by
  have hselector : Text.isSingleLine "Selector " := rfl
  have hmatched : Text.isSingleLine " matched " := rfl
  have helements : Text.isSingleLine " element(s)" := rfl
  have hmeta : Text.isSingleLine "No meta " := rfl
  have hpost : Text.isSingleLine " for post " := rfl
  cases h with
  | matched selector count =>
    refine ⟨rfl, ?_⟩
    simp only [Log.record, Text.isSingleLine_append, hselector, hmatched, helements,
      Text.isSingleLine_quoted, Text.isSingleLine_toString_nat, and_self]
  | absent key post =>
    refine ⟨rfl, ?_⟩
    simp only [Log.record, Text.isSingleLine_append, hmeta, hpost, Text.isSingleLine_quoted,
      Text.isSingleLine_toString, and_self]

namespace Log

/-- A message on one line, if the name of the block is. -/
def Record.IsFramed (r : Record) : Prop :=
  (∀ name ∈ r.context.blockName, Text.isSingleLine name) → Text.isSingleLine r.message

/-- Records that tell the texts of these faults, and otherwise have messages on one line. -/
structure Tells (faults : List Fault) (added : List Record) : Prop where
  framed : ∀ r ∈ added, (∀ fault ∈ faults, Text.isSingleLine fault.text) → r.IsFramed
  told : ∀ fault ∈ faults, ∃ r ∈ added, Text.isSingleLine r.message → Text.isSingleLine fault.text

section Tells
variable {faults others : List Fault} {added more : List Record}

theorem Tells.append (h : Tells faults added) (h' : Tells others more) :
    Tells (faults ++ others) (added ++ more) where
  framed := by
    refine List.forall_mem_append.mpr ⟨fun r hr hall => ?_, fun r hr hall => ?_⟩
    · exact h.framed r hr (List.forall_mem_append.mp hall).1
    · exact h'.framed r hr (List.forall_mem_append.mp hall).2
  told := by
    refine List.forall_mem_append.mpr ⟨fun fault hfault => ?_, fun fault hfault => ?_⟩
    · obtain ⟨r, hr, hsingle⟩ := h.told fault hfault
      exact ⟨r, List.mem_append_left more hr, hsingle⟩
    · obtain ⟨r, hr, hsingle⟩ := h'.told fault hfault
      exact ⟨r, List.mem_append_right added hr, hsingle⟩

/-- Lines for people are single ones exactly if the names of blocks and the texts of faults are. -/
theorem Tells.isSingleLine_iff (h : Tells faults added) :
    (∀ r ∈ added, ∀ time, Text.isSingleLine (compactLine time r)) ↔
      (∀ r ∈ added, ∀ name ∈ r.context.blockName, Text.isSingleLine name) ∧
        ∀ fault ∈ faults, Text.isSingleLine fault.text := by
  constructor
  · intro hlines
    have hparts := fun r hr =>
      (isSingleLine_compactLine ⟨⟨1970, 1, 1⟩, 0, 0, 0, 0, none⟩ r).mp (hlines r hr _)
    refine ⟨fun r hr => (hparts r hr).1, fun fault hfault => ?_⟩
    obtain ⟨r, hr, hsingle⟩ := h.told fault hfault
    exact hsingle (hparts r hr).2
  · rintro ⟨hnames, hfaults⟩ r hr time
    exact (isSingleLine_compactLine time r).mpr ⟨hnames r hr, h.framed r hr hfaults (hnames r hr)⟩

end Tells

end Log

namespace SourcingPlan
variable {plan : SourcingPlan}

end SourcingPlan

namespace Parser
variable {p : Parser} {r : Request} {j : Journal}

/-- A record is about no block, or about a tokenized one that is left out or is not registered. -/
def Names (p : Parser) (r : Request) (record : Log.Record) : Prop :=
  ∀ name ∈ record.context.blockName, ∃ tokens, p.tokenize r.content = .ok tokens ∧
    ∃ block ∈ ParsedBlock.enteredOfList (fun _ => true) (topBlocks tokens), block.name = some name ∧
      ((p.plan r).admitted block = false ∨ (p.plan r).typeOf block.name = none)

theorem names_of_none {record : Log.Record} (h : record.context.blockName = none) :
    p.Names r record := by
  intro name hname
  rw [h] at hname
  cases hname

/-- From one journal to another, records have been added to the log that tell the texts of these
faults. -/
def Logs (p : Parser) (r : Request) (faults : List Fault) (i j : Journal) : Prop :=
  ∃ added, j.records = i.records ++ added ∧ Log.Tells faults added ∧
    ∀ record ∈ added, p.Names r record

theorem Logs.trans {faults others : List Fault} {i j k : Journal} (h : p.Logs r faults i j)
    (h' : p.Logs r others j k) : p.Logs r (faults ++ others) i k := by
  obtain ⟨added, hadded, htells, hnames⟩ := h
  obtain ⟨more, hmore, htellsMore, hnamesMore⟩ := h'
  refine ⟨added ++ more, ?_, htells.append htellsMore,
    List.forall_mem_append.mpr ⟨hnames, hnamesMore⟩⟩
  rw [hmore, hadded, List.append_assoc]

/-- What is noted when a failure is handed out tells no more than has been told. -/
theorem Logs.reject {faults : List Fault} {i : Journal} {failure : Except Fault ParseFailure}
    {reporting : Option Fault} (hlogs : p.Logs r faults i j)
    (h : ∀ f, failure = .ok f → (∀ fault ∈ faults, Text.isSingleLine fault.text) →
      Text.isSingleLine f.message) : p.Logs r faults i (reject r failure reporting j).2 := by
  cases failure with
  | error fault => exact hlogs
  | ok f =>
    have hopen : Text.isSingleLine "Parse rejected (" := rfl
    have hclose : Text.isSingleLine "): " := rfl
    have hcode : Text.isSingleLine f.kind.code := by
      cases f.kind <;> rfl
    obtain ⟨added, hadded, htells, hnames⟩ := hlogs
    have hrecords : (Parser.reject r (.ok f) reporting j).2.records =
        i.records ++ (added ++ [Log.record .info .parser
          ("Parse rejected (" ++ f.kind.code ++ "): " ++ f.message) ⟨r.postId, none⟩]) := by
      rw [← List.append_assoc, ← hadded]
      rfl
    refine ⟨_, hrecords, ⟨?_, fun fault hfault => ?_⟩, List.forall_mem_append.mpr
      ⟨hnames, List.forall_mem_singleton.mpr (names_of_none rfl)⟩⟩
    · refine List.forall_mem_append.mpr ⟨htells.framed, List.forall_mem_singleton.mpr ?_⟩
      intro hall _
      simp only [Log.record, Text.isSingleLine_append, hopen, hcode, hclose, h f rfl hall, and_self]
    · obtain ⟨record, hrecord, hsingle⟩ := htells.told fault hfault
      exact ⟨record, List.mem_append_left _ hrecord, hsingle⟩

end Parser
end EditorBlocks
