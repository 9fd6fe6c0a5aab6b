import EditorBlocks.Proofs.Attribute.Notes
import EditorBlocks.Proofs.Sourcing.Forest
import EditorBlocks.Proofs.Sourcing.Related
/-! Warnings: each is given once, for the blocks that are entered and have no registered type, and
no warning that has been given is lost. -/

namespace EditorBlocks

namespace Journal

/-- Warnings with one more, unless it has been given. -/
def warnedOnce (warnings : List String) (warning : String) : List String :=
  if warnings.contains warning then warnings else warnings ++ [warning]

@[simp] theorem warn_warnings (j : Journal) (warning : String) :
    (j.warn warning).warnings = warnedOnce j.warnings warning := by
  unfold warn warnedOnce
  split <;> rfl

@[simp] theorem warn_records (j : Journal) (warning : String) :
    (j.warn warning).records = j.records := by
  unfold warn
  split <;> rfl

/-- To those that have been given, the first occurrences of the others are added. -/
theorem foldl_warnedOnce (seen ws : List String) :
    ws.foldl warnedOnce seen = seen ++ (ws.filter fun w => !seen.contains w).eraseDups := by
  induction ws generalizing seen with
  | nil => exact (List.append_nil seen).symm
  | cons w rest ih =>
    rw [List.foldl_cons, ih, warnedOnce]
    by_cases hw : seen.contains w
    · rw [if_pos hw, List.filter_cons_of_neg (by simpa using hw)]
    · rw [if_neg hw, List.filter_cons_of_pos (by simpa using hw), List.eraseDups_cons,
        List.append_assoc, List.singleton_append, List.filter_filter]
      congr 3
      apply List.filter_congr
      intro v _
      simp [Bool.and_comm, Bool.beq_eq_decide_eq]

end Journal

namespace SourcingPlan

/-- The record of an admitted block without a registered type. -/
def missingRecord (plan : SourcingPlan) (name : Option String) : Log.Record :=
  Log.record .warning .blocks ("Block type " ++ quotedName name ++ " is not registered")
    (plan.context name)

/-- The names of those blocks that have no registered type. -/
def missingNames (plan : SourcingPlan) (blocks : List ParsedBlock) : List (Option String) :=
  (blocks.map ParsedBlock.name).filter fun name => (plan.typeOf name).isNone

/-- The records that are warnings. -/
def warningRecords (records : List Log.Record) : List Log.Record :=
  records.filter fun r => r.level == .warning

/-- From one journal to another, warnings have been told for missing types of these names, and
nothing but these. -/
structure Told (plan : SourcingPlan) (i j : Journal) (names : List (Option String)) : Prop where
  warnings : j.warnings = (names.map missingBlockWarning).foldl Journal.warnedOnce i.warnings
  records : ∃ added, j.records = i.records ++ added ∧
    warningRecords added = names.map plan.missingRecord

section Told
variable {plan : SourcingPlan} {i j k : Journal} {names others : List (Option String)}

theorem Told.trans (h : plan.Told i j names) (h' : plan.Told j k others) :
    plan.Told i k (names ++ others) where
  warnings := by rw [h'.warnings, h.warnings, List.map_append, List.foldl_append]
  records := by
    obtain ⟨added, hj, hnames⟩ := h.records
    obtain ⟨added', hk, hothers⟩ := h'.records
    refine ⟨added ++ added', by rw [hk, hj, List.append_assoc], ?_⟩
    rw [warningRecords, List.filter_append, List.map_append, ← hnames, ← hothers]
    rfl

/-- Records of other levels tell no warning. -/
theorem told_nil {added : List Log.Record} (hw : j.warnings = i.warnings)
    (hr : j.records = i.records ++ added) (hlevel : ∀ r ∈ added, r.level = .debug) :
    plan.Told i j [] where
  warnings := hw
  records := by
    refine ⟨added, hr, List.filter_eq_nil_iff.mpr fun r hmem => ?_⟩
    rw [hlevel r hmem]
    decide

theorem told_called (calls : List HookCall) : plan.Told j (j.calledAll calls) [] :=
  told_nil rfl (List.append_nil _).symm fun _ h => by cases h

theorem told_lookedUp (name : Option String) :
    plan.Told j (plan.lookedUp name j) ([name].filter fun name => (plan.typeOf name).isNone) := by
  unfold lookedUp
  split
  · rename_i hmissing
    rw [List.filter_cons_of_pos (p := fun name => (plan.typeOf name).isNone) hmissing]
    exact ⟨Journal.warn_warnings _ _, [plan.missingRecord name], Journal.warn_records _ _, rfl⟩
  · rename_i hfound
    rw [List.filter_cons_of_neg (p := fun name => (plan.typeOf name).isNone) hfound]
    exact told_nil rfl (List.append_nil _).symm fun _ h => by cases h

/-- What resolution notes are no warnings. -/
theorem told_attributed (block : ParsedBlock) :
    plan.Told j (plan.attributed block j)
      ([block.name].filter fun name => (plan.typeOf name).isNone) := by
  have hnotes : Log.Noted.Notes ResolutionNote (plan.attributesOf j.metadata block) :=
    notes_sourceEach _ _
  rw [← List.append_nil (List.filter _ _)]
  exact (told_lookedUp block.name).trans (told_nil rfl rfl fun r hr => (hnotes r hr).level)

theorem told_process {name : Option String} {postId : Option Int} {block : ParsedBlock}
    {number : Nat} {sourced : Draft} {processors : List Processor}
    {outcome : Except Fault (Draft × ParsedBlock)}
    (h : (process name postId block number sourced processors).ends j = (outcome, k)) :
    plan.Told j k [] := by
  suffices hkept : k.warnings = j.warnings ∧ k.records = j.records from
    told_nil hkept.1 (hkept.2.trans (List.append_nil _).symm) fun _ h => by cases h
  induction processors generalizing j block number sourced with
  | nil =>
    cases h
    exact ⟨rfl, rfl⟩
  | cons processor rest ih =>
    rw [ends_process_cons] at h
    generalize (processor sourced name postId block).run.run (j.changeable block.attrsAt) = ended at h
    obtain ⟨answer, shared⟩ := ended
    cases answer with
    | error e =>
      cases h
      exact ⟨rfl, rfl⟩
    | ok next =>
      have hrest := ih h
      exact hrest

mutual
/-- A block that is sourced tells of the missing types of the blocks that are entered. -/
theorem told_source : ∀ (b : ParsedBlock) {j k : Journal} {parsed : ParsedBlock}
    {draft? : Option Draft}, (plan.source b).ends j = (.ok (parsed, draft?), k) →
    plan.Told j k (plan.missingNames (b.entered plan.admitted))
  | .mk name attrs html inner, j, k, parsed, draft?, h => by
    rw [ParsedBlock.entered]
    obtain ⟨calls, ⟨hadmitted, -, -, rfl⟩ | ⟨hadmitted, _, _, _, _, _, -, hinner, hprocess, -⟩⟩ :=
      source_cases h
    · rw [hadmitted]
      exact (told_called calls).trans
        (told_nil rfl rfl fun r hr => by rw [List.mem_singleton.mp hr]; rfl)
    · rw [if_pos hadmitted, missingNames, List.map_cons, ← List.singleton_append,
        List.filter_append]
      have hattributed : plan.Told j (plan.attributed (.mk name attrs html inner)
          (j.calledAll calls)) ([name].filter fun name => (plan.typeOf name).isNone) :=
        (told_called calls).trans (told_attributed _)
      have hall := (hattributed.trans (told_sourceAll inner hinner)).trans (told_process hprocess)
      rwa [List.append_nil] at hall

theorem told_sourceAll : ∀ (bs : List ParsedBlock) {number : Nat} {j k : Journal}
    {parsed : List ParsedBlock} {drafts : List Draft},
    (plan.sourceAll number bs).ends j = (.ok (parsed, drafts), k) →
    plan.Told j k (plan.missingNames (ParsedBlock.enteredOfList plan.admitted bs))
  | [], number, j, k, parsed, drafts, h => by
    rw [ends_sourceAll_nil] at h
    cases h
    exact told_nil rfl (List.append_nil _).symm fun _ h => by cases h
  | b :: rest, number, j, k, parsed, drafts, h => by
    obtain ⟨_, _, _, _, _, hfirst, hrest, -, -⟩ := sourceAll_cons_cases h
    rw [ParsedBlock.enteredOfList, missingNames, List.map_append, List.filter_append]
    exact (told_source b hfirst).trans (told_sourceAll rest hrest)
end

end Told

end SourcingPlan

/-- What is done with one journal: a warning is given, or a block is sourced. -/
inductive SourcingStep
  | warn (warning : String)
  | source (plan : SourcingPlan) (block : ParsedBlock)

namespace Journal

/-- The journal after a step, which may have failed. -/
def step (j : Journal) : SourcingStep → Journal
  | .warn warning => j.warn warning
  | .source plan block => ((plan.source block).ends j).2

def after (j : Journal) (steps : List SourcingStep) : Journal := steps.foldl step j

section Steps
variable {j : Journal}

end Steps

end Journal
end EditorBlocks
