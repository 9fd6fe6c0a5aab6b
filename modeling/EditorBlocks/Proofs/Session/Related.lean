import EditorBlocks.Proofs.Attribute.Resolution
import EditorBlocks.Proofs.Session.Runs
import EditorBlocks.Proofs.Sourcing.Related
/-! Two parses over metadata that tells the same values: they have one outcome. -/

namespace EditorBlocks

theorem Draft.settle_congr {m n : Metadata} (h : m.TellsAlike n) (attrs : PlacedAttrs) (d : Draft) :
    d.settle ⟨m, attrs⟩ = d.settle ⟨n, attrs⟩ := by
  have hheld : Held.settle ⟨m, attrs⟩ = Held.settle ⟨n, attrs⟩ := by
    funext held
    refine Held.settle_congr ?_ held fun _ _ => rfl
    intro post key
    exact h.values post key
  rw [Draft.settle, Draft.settle, hheld]

namespace Parser
variable {p q : Parser} {r : Request} {M : Metadata → Metadata → Prop} {i j : Journal}

/-- What a relation of metadata needs for a whole parse: related metadata tells the same values, and
processors respect the relation. -/
structure Respects (p : Parser) (r : Request) (M : Metadata → Metadata → Prop) : Prop where
  tells : ∀ {m n}, M m n → m.TellsAlike n
  processed : ∀ {m n}, M m n → ∀ processor ∈ p.hooks.processors, ∀ sourced name block spoilt,
    ∃ outcome attrs spoilt' m' n',
      (processor sourced name r.postId block).run.run ⟨⟨m, block.attrsAt⟩, spoilt⟩ =
        (outcome, ⟨⟨m', attrs⟩, spoilt'⟩) ∧
      (processor sourced name r.postId block).run.run ⟨⟨n, block.attrsAt⟩, spoilt⟩ =
        (outcome, ⟨⟨n', attrs⟩, spoilt'⟩) ∧
      M m' n'

/-- Once it has begun, a parse asks the journal for nothing but the metadata, its own warnings and
what spoils its blocks, and does not count a use again. -/
theorem Respects.parseBlocks_alike (hM : p.Respects r M) (uses : Nat) :
    Sourcing.EndsAlike (fun i j => M i.metadata j.metadata ∧ i.spoilt = j.spoilt ∧
      i.warnings = j.warnings ∧ i.uses = uses) (p.parseBlocks r) := by
  intro i j h
  have hR := (p.plan r).respects_of_metadata hM.tells hM.processed uses
  rw [ends_parseBlocks, ends_parseBlocks]
  cases p.tokenize r.content with
  | error e => exact ⟨_, _, _, rfl, rfl, h⟩
  | ok tokens =>
    have hstart : M (tokenized r tokens i).metadata (tokenized r tokens j).metadata ∧
        (tokenized r tokens i).spoilt = (tokenized r tokens j).spoilt ∧
        (tokenized r tokens i).warnings = (tokenized r tokens j).warnings ∧
        (tokenized r tokens i).uses = uses := h
    obtain ⟨outcome, k, l, hk, hl, hkl⟩ := hR.sourceAll_alike (topBlocks tokens) 0 hstart
    simp only [hk, hl]
    cases outcome with
    | error e => exact ⟨_, _, _, rfl, rfl, hkl⟩
    | ok found =>
      have htold : p.told r k found.1 found.2 = p.told r l found.1 found.2 := by
        simp only [told, Draft.settle_congr (hM.tells hkl.1), hkl.2.2.1]
      simp only [htold, hkl.2.1]
      cases p.lostEcho l.spoilt <;> exact ⟨_, _, _, rfl, rfl, hkl⟩

/-- Parses that begin alike have one outcome. -/
theorem parse_congr (hrefusal : p.refusal? r = q.refusal? r)
    (hends : ((p.parseBlocks r).ends (p.begun i)).1 = ((q.parseBlocks r).ends (q.begun j)).1) :
    (p.parse r i).1 = (q.parse r j).1 := by
  rw [parse_eq, parse_eq, hrefusal]
  obtain fault | - | failure := q.refusal? r
  · exact reject_congr _ _
  · simp only
    generalize (p.parseBlocks r).ends (p.begun i) = ended at hends
    generalize (q.parseBlocks r).ends (q.begun j) = ended' at hends
    obtain ⟨outcome, k⟩ := ended
    obtain ⟨outcome', k'⟩ := ended'
    cases hends
    cases outcome with
    | ok result => rfl
    | error fault => exact reject_congr _ _
  · exact reject_congr _ _

/-- Related metadata leads to one outcome, whatever else has been noted before. -/
theorem Respects.parse_alike (hM : p.Respects r M) (h : M i.metadata j.metadata) :
    (p.parse r i).1 = (p.parse r j).1 := by
  have hbegun : M (p.begun i).metadata (p.begun j).metadata := by
    rw [begun_metadata, begun_metadata]
    exact h
  obtain ⟨outcome, k, l, hk, hl, -⟩ :=
    hM.parseBlocks_alike (i.uses + 1) ⟨hbegun, rfl, rfl, begun_uses⟩
  exact parse_congr rfl (by rw [hk, hl])

/-- Every parse respects the metadata as it is. -/
theorem respects_eq (p : Parser) (r : Request) : p.Respects r Eq where
  tells := by
    rintro m _ rfl
    exact .refl m
  processed := by
    rintro m _ rfl processor - sourced name block spoilt
    exact ⟨_, _, _, _, _, rfl, rfl, rfl⟩

end Parser
end EditorBlocks
