import EditorBlocks.Proofs.Session.Handlers
import EditorBlocks.Proofs.Session.Related
import EditorBlocks.Proofs.Sourcing.Faults
import Mathlib.Algebra.Group.Int.Defs
/-! The outcomes of a parse: three kinds of failures, the fault that no failure can be made of, and
the result, each with its exact condition. -/

namespace EditorBlocks

section Reports
variable {code message : String} {status : Int}

end Reports

/-- Both lists of names are given, empty or not. -/
def Request.Conflicts (r : Request) : Prop := r.filter.keep.isSome ∧ r.filter.drop.isSome

/-- The number that messages give for the post can be written. -/
def Request.CanName (r : Request) : Prop := Text.fitsDigitLimit (r.postId.getD 0)

theorem Request.canName_of_fits {r : Request} (h : r.postId.all Text.fitsDigitLimit) :
    r.CanName := by
  unfold CanName
  cases hpost : r.postId with
  | none => decide
  | some post =>
    rw [hpost] at h
    exact h

namespace Parser

/-- The marker stands somewhere in the content. -/
def Marks (p : Parser) (r : Request) : Prop := p.settings.marker.toList <:+: r.content.toList

/-- Where the first fault of all is raised. -/
inductive RaisesFirst (p : Parser) (r : Request) (j : Journal) (fault : Fault) : Prop
  /-- by the tokenizer -/
  | tokenizing : p.tokenize r.content = .error fault → RaisesFirst p r j fault
  /-- in the sourcing of a block -/
  | sourcing {tokens : List ParsedBlock} : p.tokenize r.content = .ok tokens →
      (p.plan r).FirstFault fault (tokenized r tokens (p.begun j)) (topBlocks tokens) →
      RaisesFirst p r j fault
  /-- when all blocks have been sourced, by parsed blocks that are to be shown and have been
  spoilt -/
  | echoing {tokens parsed : List ParsedBlock} {sourced : List Draft} {i : Journal} :
      p.tokenize r.content = .ok tokens →
      ((p.plan r).sourceAll 0 (topBlocks tokens)).ends (tokenized r tokens (p.begun j)) =
        (.ok (parsed, sourced), i) →
      p.settings.debug = true → i.spoilt = some fault → RaisesFirst p r j fault

section Outcome
variable {p : Parser} {r : Request} {j : Journal} {fault : Fault}

theorem lostEcho_eq_some {spoilt : Option Fault} :
    p.lostEcho spoilt = some fault ↔ p.settings.debug = true ∧ spoilt = some fault := by
  unfold lostEcho
  cases p.settings.debug <;> simp

theorem raisesFirst_iff :
    p.RaisesFirst r j fault ↔ ∃ i, (p.parseBlocks r).ends (p.begun j) = (.error fault, i) := by
  rw [ends_parseBlocks]
  constructor
  · rintro (htokens | ⟨htokens, hfirst⟩ | ⟨htokens, hsourced, hdebug, hspoilt⟩)
    · rw [htokens]
      exact ⟨_, rfl⟩
    · obtain ⟨i, hi⟩ := (SourcingPlan.ends_sourceAll_error_iff 0).mpr hfirst
      rw [htokens]
      simp only [hi]
      exact ⟨_, rfl⟩
    · rw [htokens]
      simp only [hsourced, lostEcho_eq_some.mpr ⟨hdebug, hspoilt⟩]
      exact ⟨_, rfl⟩
  · rintro ⟨i, hends⟩
    cases htokens : p.tokenize r.content with
    | error e =>
      rw [htokens] at hends
      cases hends
      exact .tokenizing htokens
    | ok tokens =>
      simp only [htokens] at hends
      cases hsourced : ((p.plan r).sourceAll 0 (topBlocks tokens)).ends
          (tokenized r tokens (p.begun j)) with
      | mk outcome k =>
        rw [hsourced] at hends
        cases outcome with
        | error e =>
          cases hends
          exact .sourcing htokens ((SourcingPlan.ends_sourceAll_error_iff 0).mp ⟨_, hsourced⟩)
        | ok found =>
          simp only at hends
          cases hlost : p.lostEcho k.spoilt with
          | none => simp [hlost] at hends
          | some lost =>
            rw [hlost] at hends
            cases hends
            have hecho := lostEcho_eq_some.mp hlost
            exact .echoing htokens hsourced hecho.1 hecho.2

theorem refusal?_of_conflict (h : r.Conflicts) :
    p.refusal? r = .ok (some ⟨.invalidParams, conflictMessage, none⟩) := by
  have hconflict : r.filter.isConflicting = true := by
    rw [BlockFilter.isConflicting, h.1, h.2]
    rfl
  rw [refusal?, if_pos hconflict]

theorem refusal?_of_unmarked (hc : ¬r.Conflicts) (hm : ¬p.Marks r) :
    p.refusal? r = (errorAt r.postId).map fun start =>
      some ⟨.noBlocks, start ++ ": " ++ noBlocksText, none⟩ := by
  have hconflict : ¬r.filter.isConflicting = true := by
    rw [BlockFilter.isConflicting, Bool.and_eq_true]
    exact hc
  have hmarked : (!hasBlocks r.content p.settings.marker) = true := by
    rw [Bool.not_eq_true', ← Bool.not_eq_true, hasBlocks, Text.occursIn_iff]
    exact hm
  rw [refusal?, if_neg hconflict, if_pos hmarked]

theorem refusal?_of_marked (hc : ¬r.Conflicts) (hm : p.Marks r) : p.refusal? r = .ok none := by
  have hconflict : ¬r.filter.isConflicting = true := by
    rw [BlockFilter.isConflicting, Bool.and_eq_true]
    exact hc
  have hmarked : ¬(!hasBlocks r.content p.settings.marker) = true := by
    rw [Bool.not_eq_true', Bool.not_eq_false, hasBlocks, Text.occursIn_iff]
    exact hm
  rw [refusal?, if_neg hconflict, if_neg hmarked]

/-- How a request ends for which a failure with a message about its post is to be handed out. -/
def endsBy (r : Request) (kind : FailureKind) (text : String) (cause : Option Fault) :
    ParseOutcome :=
  match errorAt r.postId with
  | .ok start => .error (.failure ⟨kind, start ++ ": " ++ text, cause⟩)
  | .error raised => .error (.raised raised cause)

theorem parse_of_conflict (h : r.Conflicts) :
    (p.parse r j).1 = .error (.failure ⟨.invalidParams, conflictMessage, none⟩) := by
  rw [parse_eq, refusal?_of_conflict h]
  rfl

theorem parse_of_unmarked (hc : ¬r.Conflicts) (hm : ¬p.Marks r) :
    (p.parse r j).1 = endsBy r .noBlocks noBlocksText none := by
  rw [parse_eq, refusal?_of_unmarked hc hm, endsBy]
  cases errorAt r.postId <;> rfl

theorem parse_of_fault (hc : ¬r.Conflicts) (hm : p.Marks r) (hf : p.RaisesFirst r j fault) :
    (p.parse r j).1 = endsBy r .parser fault.text (some fault) := by
  obtain ⟨i, hi⟩ := raisesFirst_iff.mp hf
  rw [parse_eq, refusal?_of_marked hc hm, endsBy]
  simp only [hi, faultFailure]
  cases errorAt r.postId <;> rfl

theorem parse_of_no_fault (hc : ¬r.Conflicts) (hm : p.Marks r)
    (hf : ∀ fault, ¬p.RaisesFirst r j fault) : ∃ result, (p.parse r j).1 = .ok result := by
  rw [parse_eq, refusal?_of_marked hc hm]
  cases hends : (p.parseBlocks r).ends (p.begun j) with
  | mk outcome i =>
    cases outcome with
    | error fault => exact absurd (raisesFirst_iff.mpr ⟨i, hends⟩) (hf fault)
    | ok result => exact ⟨result, rfl⟩

theorem endsBy_of_canName {kind : FailureKind} {text : String} {cause : Option Fault}
    (h : r.CanName) : endsBy r kind text cause = .error (.failure ⟨kind,
      "Error parsing post ID " ++ toString (r.postId.getD 0) ++ ": " ++ text, cause⟩) := by
  rw [endsBy, errorAt_of_fits h]

theorem endsBy_of_not_canName {kind : FailureKind} {text : String} {cause : Option Fault}
    (h : ¬r.CanName) : endsBy r kind text cause = .error (.raised .longNumber cause) := by
  rw [endsBy, errorAt_of_not_fits (Bool.not_eq_true _ ▸ h)]

/-- The cases of a request, and its outcome in each. -/
inductive Ended (p : Parser) (r : Request) (j : Journal) : ParseOutcome → Prop
  | conflict : r.Conflicts → Ended p r j (.error (.failure ⟨.invalidParams, conflictMessage, none⟩))
  | unmarked : ¬r.Conflicts → ¬p.Marks r → r.CanName → Ended p r j (.error (.failure ⟨.noBlocks,
      "Error parsing post ID " ++ toString (r.postId.getD 0) ++ ": " ++ noBlocksText, none⟩))
  | unmarkedNameless : ¬r.Conflicts → ¬p.Marks r → ¬r.CanName →
      Ended p r j (.error (.raised .longNumber none))
  | fault {fault : Fault} : ¬r.Conflicts → p.Marks r → p.RaisesFirst r j fault → r.CanName →
      Ended p r j (.error (.failure ⟨.parser,
        "Error parsing post ID " ++ toString (r.postId.getD 0) ++ ": " ++ fault.text, some fault⟩))
  | faultNameless {fault : Fault} : ¬r.Conflicts → p.Marks r → p.RaisesFirst r j fault →
      ¬r.CanName → Ended p r j (.error (.raised .longNumber (some fault)))
  | result {result : ParseResult} : ¬r.Conflicts → p.Marks r →
      (∀ fault, ¬p.RaisesFirst r j fault) → Ended p r j (.ok result)

theorem parse_ended (p : Parser) (r : Request) (j : Journal) : p.Ended r j (p.parse r j).1 := by
  by_cases hc : r.Conflicts
  · rw [parse_of_conflict hc]
    exact .conflict hc
  by_cases hm : p.Marks r
  · by_cases hf : ∃ fault, p.RaisesFirst r j fault
    · obtain ⟨fault, hf⟩ := hf
      rw [parse_of_fault hc hm hf]
      by_cases hn : r.CanName
      · rw [endsBy_of_canName hn]
        exact .fault hc hm hf hn
      · rw [endsBy_of_not_canName hn]
        exact .faultNameless hc hm hf hn
    · have hnone : ∀ fault, ¬p.RaisesFirst r j fault := fun fault h => hf ⟨fault, h⟩
      obtain ⟨result, hresult⟩ := parse_of_no_fault hc hm hnone
      rw [hresult]
      exact .result hc hm hnone
  · rw [parse_of_unmarked hc hm]
    by_cases hn : r.CanName
    · rw [endsBy_of_canName hn]
      exact .unmarked hc hm hn
    · rw [endsBy_of_not_canName hn]
      exact .unmarkedNameless hc hm hn

section Ended
variable {outcome : ParseOutcome} {message : String}

end Ended

end Outcome

end Parser
end EditorBlocks
