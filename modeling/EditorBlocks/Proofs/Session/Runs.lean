import EditorBlocks.Proofs.Sourcing.Runs
import EditorBlocks.Session.Parser
/-! How a parse ends: the request is checked, then the content is tokenized and its blocks are
sourced. -/

namespace EditorBlocks
namespace Parser
variable {p : Parser} {r : Request} {j : Journal} {result : ParseResult}

/-- The blocks that are sourced, with blank free text at the top left out. -/
def topBlocks (tokens : List ParsedBlock) : List ParsedBlock := tokens.filter fun b => !b.isWhitespace

theorem errorAt_of_fits {postId : Option Int} (h : Text.fitsDigitLimit (postId.getD 0)) :
    errorAt postId = .ok ("Error parsing post ID " ++ toString (postId.getD 0)) := by
  rw [errorAt, postText_of_fits h]
  rfl

theorem errorAt_of_not_fits {postId : Option Int}
    (h : Text.fitsDigitLimit (postId.getD 0) = false) : errorAt postId = .error .longNumber := by
  rw [errorAt, postText_of_not_fits h]
  rfl

/-- The journal when the content has been tokenized. -/
def tokenized (r : Request) (tokens : List ParsedBlock) (j : Journal) : Journal :=
  j.note (Log.record .debug .parser
    ("Tokenized " ++ toString (topBlocks tokens).length ++ " top-level block(s)") ⟨r.postId, none⟩)

/-- The result that is told from the journal, when all blocks have been sourced. -/
def told (p : Parser) (r : Request) (j : Journal) (parsed : List ParsedBlock)
    (sourced : List Draft) : ParseResult where
  blocks := sourced.map (·.settle ⟨j.metadata, ParsedBlock.attrsAmong parsed⟩)
  warnings := j.warnings
  debug := if p.settings.debug then some (debugData parsed r.content) else none

@[simp] theorem recordUse_metadata : (p.recordUse j).metadata = j.metadata := by
  unfold recordUse
  cases p.recorder <;> rfl

@[simp] theorem recordUse_uses : (p.recordUse j).uses = j.uses + 1 := by
  unfold recordUse
  cases p.recorder <;> rfl

section Reject
variable {failure : Except Fault ParseFailure} {reporting : Option Fault} {fault : Fault}

@[simp] theorem noteFault_metadata : (noteFault r fault j).metadata = j.metadata := rfl

@[simp] theorem noteFault_calls : (noteFault r fault j).calls = j.calls := rfl

@[simp] theorem noteFault_uses : (noteFault r fault j).uses = j.uses := rfl

@[simp] theorem reject_metadata : (reject r failure reporting j).2.metadata = j.metadata := by
  cases failure <;> rfl

/-- How a request is rejected does not ask for the journal. -/
theorem reject_congr (i j : Journal) :
    (reject r failure reporting i).1 = (reject r failure reporting j).1 := by
  cases failure <;> rfl

theorem reject_ne_ok : (reject r failure reporting j).1 ≠ .ok result := by
  cases failure <;> exact fun h => by cases h

end Reject

/-- The journal with which tokenizing begins. -/
def begun (p : Parser) (j : Journal) : Journal :=
  { p.recordUse j with warnings := [], spoilt := none }

@[simp] theorem begun_spoilt : (p.begun j).spoilt = none := rfl

@[simp] theorem begun_metadata : (p.begun j).metadata = j.metadata := recordUse_metadata

@[simp] theorem begun_uses : (p.begun j).uses = j.uses + 1 := recordUse_uses

/-- The fault for which debug data cannot be made of the parsed blocks, if it is wanted. -/
def lostEcho (p : Parser) (spoilt : Option Fault) : Option Fault :=
  if p.settings.debug then spoilt else none

theorem echo_eq (spoilt : Option Fault) (blocks : List ParsedBlock) (content : String) :
    p.echo spoilt blocks content = match p.lostEcho spoilt with
      | some fault => .error fault
      | none => .ok (if p.settings.debug then some (debugData blocks content) else none) := by
  unfold echo lostEcho
  cases p.settings.debug with
  | false => rfl
  | true => cases spoilt <;> rfl

theorem ends_parseBlocks : (p.parseBlocks r).ends j =
    match p.tokenize r.content with
    | .error e => (.error e, j)
    | .ok tokens =>
      match ((p.plan r).sourceAll 0 (topBlocks tokens)).ends (tokenized r tokens j) with
      | (.error e, i) => (.error e, i)
      | (.ok (parsed, sourced), i) =>
        match p.lostEcho i.spoilt with
        | some fault => (.error fault, i)
        | none => (.ok (p.told r i parsed sourced), i) := by
  rw [parseBlocks]
  simp only [Sourcing.ends_bind, Sourcing.ends_ofExcept, Sourcing.ends_note, Sourcing.ends_get,
    Sourcing.ends_pure, echo_eq]
  cases p.tokenize r.content with
  | error e => rfl
  | ok tokens =>
    simp only [topBlocks, tokenized]
    generalize ((p.plan r).sourceAll 0 _).ends _ = ended
    obtain ⟨outcome, i⟩ := ended
    cases outcome with
    | error e => rfl
    | ok found =>
      simp only
      cases p.lostEcho i.spoilt <;> rfl

theorem parse_eq : p.parse r j =
    match p.refusal? r with
    | .error fault => reject r (.error fault) none (p.recordUse j)
    | .ok (some failure) => reject r (.ok failure) none (p.recordUse j)
    | .ok none =>
      match (p.parseBlocks r).ends (p.begun j) with
      | (.ok result, i) => (.ok result, i)
      | (.error fault, i) =>
        reject r (faultFailure r.postId fault) (some fault) (noteFault r fault i) := rfl

theorem exists_result {outcome : ParseOutcome} (h : outcome.isOk) :
    ∃ result, outcome = .ok result := by
  cases outcome with
  | ok result => exact ⟨result, rfl⟩
  | error failure => cases h

/-- A parse with a result ends as its work does. -/
theorem ends_of_parse (h : (p.parse r j).1 = .ok result) :
    (p.parseBlocks r).ends (p.begun j) = (.ok result, (p.parse r j).2) := by
  rw [parse_eq] at h ⊢
  generalize p.refusal? r = refusal at h ⊢
  obtain fault | - | failure := refusal
  · exact absurd h reject_ne_ok
  · simp only at h ⊢
    generalize (p.parseBlocks r).ends (p.begun j) = ended at h ⊢
    obtain ⟨outcome, i⟩ := ended
    cases outcome with
    | error e => exact absurd h reject_ne_ok
    | ok found =>
      cases h
      rfl
  · exact absurd h reject_ne_ok

/-- A parse with a result has sourced all blocks. -/
theorem sourceAll_of_parse (h : (p.parse r j).1 = .ok result) :
    ∃ tokens parsed sourced i, p.tokenize r.content = .ok tokens ∧
      ((p.plan r).sourceAll 0 (topBlocks tokens)).ends (tokenized r tokens (p.begun j)) =
        (.ok (parsed, sourced), i) ∧
      result = p.told r i parsed sourced ∧ (p.parse r j).2 = i := by
  have hends := ends_of_parse h
  rw [ends_parseBlocks] at hends
  cases ht : p.tokenize r.content with
  | error e => simp [ht] at hends
  | ok tokens =>
    simp only [ht] at hends
    cases hs : ((p.plan r).sourceAll 0 (topBlocks tokens)).ends (tokenized r tokens (p.begun j)) with
    | mk outcome i =>
      cases outcome with
      | error e => simp [hs] at hends
      | ok found =>
        obtain ⟨parsed, sourced⟩ := found
        simp only [hs] at hends
        cases hecho : p.lostEcho i.spoilt with
        | some fault => simp [hecho] at hends
        | none =>
          simp only [hecho, Prod.mk.injEq, Except.ok.injEq] at hends
          exact ⟨tokens, parsed, sourced, i, rfl, hs, hends.1.symm, hends.2.symm⟩

end Parser
end EditorBlocks
