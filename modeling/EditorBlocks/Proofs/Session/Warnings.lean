import EditorBlocks.Hook.Rule
import EditorBlocks.Proofs.Session.Admission
import EditorBlocks.Proofs.Sourcing.Warnings
/-! The warnings of a parse: one for each missing type, in the order in which the blocks of such
types first occur. -/

namespace EditorBlocks

namespace Parser
variable {p : Parser} {r : Request} {j : Journal} {tokens : List ParsedBlock} {result : ParseResult}

/-- The names without a registered type among the blocks that are left. -/
def missing (p : Parser) (r : Request) (tokens : List ParsedBlock) : List (Option String) :=
  (p.plan r).missingNames (ParsedBlock.survivingBlocks (p.plan r).admitted tokens)

/-- The journal without its warnings, as each parse begins. -/
def unwarned (j : Journal) : Journal := { j with warnings := [] }

theorem told_begun : (p.plan r).Told (unwarned j) (p.begun j) [] := by
  have hbegun : ∃ added, (p.begun j).records = j.records ++ added ∧
      ∀ r ∈ added, r.level = Log.Level.debug := by
    unfold begun recordUse
    cases p.recorder with
    | silent => exact ⟨[], (List.append_nil _).symm, fun _ h => by cases h⟩
    | logging | failing => exact ⟨[_], rfl, by simp [Log.record]⟩
  obtain ⟨added, hadded, hlevel⟩ := hbegun
  exact SourcingPlan.told_nil rfl hadded hlevel

theorem told_tokenized : (p.plan r).Told j (tokenized r tokens j) [] :=
  SourcingPlan.told_nil rfl rfl fun r hr => by rw [List.mem_singleton.mp hr]; rfl

/-- When all blocks have been sourced, the missing types have been told. -/
theorem told_sourced {parsed : List ParsedBlock} {sourced : List Draft} {i : Journal}
    (h : ((p.plan r).sourceAll 0 (topBlocks tokens)).ends (tokenized r tokens (p.begun j)) =
      (.ok (parsed, sourced), i)) : (p.plan r).Told (unwarned j) i (p.missing r tokens) := by
  rw [missing, survivingBlocks_eq]
  exact told_begun.trans (told_tokenized.trans (SourcingPlan.told_sourceAll _ h))

/-- A journal that began without warnings has each of those told once. -/
theorem warnings_of_told {i : Journal} {names : List (Option String)}
    (h : (p.plan r).Told (unwarned j) i names) :
    i.warnings = (names.map missingBlockWarning).eraseDups := by
  rw [h.warnings, Journal.foldl_warnedOnce]
  change (List.filter (fun _ => true) _).eraseDups = _
  rw [List.filter_eq_self.mpr fun _ _ => rfl]

end Parser
end EditorBlocks
