import EditorBlocks.Sourcing.Blocks
/-! How sourcing ends: each computation of a run taken apart into the steps that it is made of. -/

namespace EditorBlocks

namespace Journal

/-- The journal with the records of a noted computation. -/
def noted (j : Journal) (records : List Log.Record) : Journal :=
  { j with records := j.records ++ records }

/-- What a processor can change in place. -/
def changeable (j : Journal) (attrs : PlacedAttrs) : Changeable := ⟨⟨j.metadata, attrs⟩, j.spoilt⟩

/-- The journal with what a processor has changed. -/
def changedTo (j : Journal) (s : Changeable) : Journal :=
  { j with metadata := s.metadata, spoilt := s.spoilt }

/-- The journal with calls of hooks, one after another. -/
def calledAll (j : Journal) (calls : List HookCall) : Journal := { j with calls := j.calls ++ calls }

@[simp] theorem warn_metadata (j : Journal) (warning : String) :
    (j.warn warning).metadata = j.metadata := by
  unfold warn
  split <;> rfl

@[simp] theorem warn_spoilt (j : Journal) (warning : String) :
    (j.warn warning).spoilt = j.spoilt := by
  unfold warn
  split <;> rfl

theorem calledAll_nil (j : Journal) : j.calledAll [] = j := by
  rw [calledAll, List.append_nil]

theorem calledAll_cons (j : Journal) (call : HookCall) (calls : List HookCall) :
    j.calledAll (call :: calls) = (j.called call).calledAll calls := by
  rw [calledAll, calledAll, called, List.append_assoc, List.singleton_append]

end Journal

namespace Sourcing
variable {α β : Type} {x : Sourcing α} {f : α → Sourcing β} {j : Journal}

/-- How a computation ends from a journal, and the journal that it leaves. -/
def ends (x : Sourcing α) (j : Journal) : Except Fault α × Journal := x.run.run j

@[simp] theorem ends_pure (a : α) : (pure a : Sourcing α).ends j = (.ok a, j) := rfl

@[simp] theorem ends_get : (get : Sourcing Journal).ends j = (.ok j, j) := rfl

@[simp] theorem ends_note (r : Log.Record) : (note r).ends j = (.ok (), j.note r) := rfl

@[simp] theorem ends_warn (warning : String) :
    (warn warning).ends j = (.ok (), j.warn warning) := rfl

@[simp] theorem ends_called (c : HookCall) : (called c).ends j = (.ok (), j.called c) := rfl

@[simp] theorem ends_ofExcept (o : Except Fault α) : (ofExcept o).ends j = (o, j) := rfl

theorem ends_bind : (x >>= f).ends j =
    match x.ends j with
    | (.ok a, j') => (f a).ends j'
    | (.error e, j') => (.error e, j') := by
  change (ExceptT.run (x >>= f)).run j = _
  simp only [ExceptT.run_bind, StateT.run_bind]
  unfold ends
  generalize x.run.run j = r
  obtain ⟨outcome, j'⟩ := r
  cases outcome <;> rfl

/-- A computation succeeds when each of its steps does. -/
theorem ends_bind_ok {b : β} {k : Journal} : (x >>= f).ends j = (.ok b, k) ↔
    ∃ a i, x.ends j = (.ok a, i) ∧ (f a).ends i = (.ok b, k) := by
  rw [ends_bind]
  generalize x.ends j = ended
  obtain ⟨outcome, i⟩ := ended
  cases outcome with
  | error e => simp
  | ok a =>
    constructor
    · exact fun h => ⟨a, i, rfl, h⟩
    · rintro ⟨_, _, heq, h⟩
      cases heq
      exact h

@[simp] theorem ends_ofNoted (y : Log.Noted Fault α) :
    (ofNoted y).ends j = (y.outcome, j.noted y.records) := rfl

/-- What a computation that changes things in place makes of a journal. -/
theorem ends_sharing (attrs : PlacedAttrs) (y : ExceptT Fault (StateM Changeable) α) :
    (sharing attrs y).ends j =
      let (outcome, changed) := y.run.run (j.changeable attrs)
      (outcome.map fun a => (a, changed.attrs), j.changedTo changed) := by
  simp only [sharing, ends_bind, ends_get]
  rw [Journal.changeable]
  generalize y.run.run ⟨⟨j.metadata, attrs⟩, j.spoilt⟩ = r
  obtain ⟨outcome, changed⟩ := r
  cases outcome <;> rfl

end Sourcing

namespace SourcingPlan
variable {plan : SourcingPlan} {name : Option String} {j : Journal}

/-- The type that is registered for a name. -/
def typeOf (plan : SourcingPlan) (name : Option String) : Option BlockType :=
  name.bind plan.registry.find?

/-- The definitions that are registered for a name. -/
def definitionsOf (plan : SourcingPlan) (name : Option String) :
    List (String × AttributeDefinition) :=
  ((plan.typeOf name).map (·.attributes)).getD []

/-- The attributes that a block gets, before any processor. -/
def attributesOf (plan : SourcingPlan) (metadata : Metadata) (block : ParsedBlock) :
    Resolving (List (String × Held)) :=
  sourceAttributes ⟨metadata, plan.postId⟩ block (plan.definitionsOf block.name)

/-- The journal when the type of an admitted block has been looked up. -/
def lookedUp (plan : SourcingPlan) (name : Option String) (j : Journal) : Journal :=
  if (plan.typeOf name).isNone then
    (j.note (Log.record .warning .blocks
      ("Block type " ++ quotedName name ++ " is not registered") (plan.context name))).warn
        (missingBlockWarning name)
  else j

/-- The journal when the attributes of an admitted block have been sourced. -/
def attributed (plan : SourcingPlan) (block : ParsedBlock) (j : Journal) : Journal :=
  (plan.lookedUp block.name j).noted (plan.attributesOf j.metadata block).records

/-- The journal when a block has been left out. -/
def skipped (plan : SourcingPlan) (name : Option String) (j : Journal) : Journal :=
  j.note (Log.record .debug .blocks ("Skipping block " ++ name.getD "None") (plan.context name))

/-- A settled block is the block with empty attributes, if it has none; nothing else changes. -/
theorem settled_eq (d : Draft) :
    settled d = .mk d.name (some (d.attributes.getD [])) d.inner d.debug := by
  cases d
  rfl

/-- The sourced block that the first processor is given. -/
def draftOf (plan : SourcingPlan) (name : Option String) (attributes : List (String × Held))
    (inner : List Draft) : Draft :=
  .mk name (some attributes) inner (if plan.debug then some (debugData (plan.typeOf name)) else none)

/-- Whether nothing keeps a block of this name from being shown as debug data wants it. -/
def shows (plan : SourcingPlan) (name : Option String) : Bool :=
  !plan.debug || (plan.typeOf name).all (·.isShowable)

theorem shown_typeOf (name : Option String) : plan.shown (plan.typeOf name) =
    if plan.shows name then
      .ok (if plan.debug then some (debugData (plan.typeOf name)) else none)
    else .error .tooDeep := by
  unfold shown shows
  cases plan.debug <;> rfl

@[simp] theorem lookedUp_metadata : (plan.lookedUp name j).metadata = j.metadata := by
  unfold lookedUp
  split
  · exact Journal.warn_metadata _ _
  · rfl

/-- What follows when a block has been admitted. -/
def sourceAdmitted (plan : SourcingPlan) (block : ParsedBlock) :
    Sourcing (ParsedBlock × Option Draft) := do
  let attributes ← Sourcing.ofNoted (plan.attributesOf (← get).metadata block)
  let (innerParsed, innerSourced) ← sourceAll plan 0 block.inner
  let debug ← Sourcing.ofExcept (plan.shown (plan.typeOf block.name))
  let (sourced, parsed) ← process block.name plan.postId (block.withInner innerParsed) 0
    (.mk block.name (some attributes) innerSourced debug) plan.hooks.processors
  return (parsed, some (settled sourced))

/-- The look-up of a type, with a warning if there is none. -/
def lookUp (plan : SourcingPlan) (name : Option String) : Sourcing Unit :=
  if (plan.typeOf name).isNone then plan.noteMissing name else pure ()

/-- All there is to a block that is not admitted. -/
def skip (plan : SourcingPlan) (block : ParsedBlock) : Sourcing (ParsedBlock × Option Draft) := do
  Sourcing.note (Log.record .debug .blocks
    ("Skipping block " ++ block.name.getD "None") (plan.context block.name))
  return (block, none)

theorem source_eq (block : ParsedBlock) : plan.source block =
    plan.isIncluded block >>= fun included =>
      if included then plan.lookUp block.name >>= fun _ => plan.sourceAdmitted block
      else plan.skip block := by
  obtain ⟨name, attrs, html, inner⟩ := block
  rw [source]
  congr 1
  funext included
  cases included with
  | false => rfl
  | true =>
    change (if (plan.typeOf name).isNone then
        plan.noteMissing name >>= fun _ => plan.sourceAdmitted (.mk name attrs html inner)
      else plan.sourceAdmitted (.mk name attrs html inner)) =
        plan.lookUp name >>= fun _ => plan.sourceAdmitted (.mk name attrs html inner)
    unfold lookUp
    split <;> rfl

theorem ends_lookUp : (plan.lookUp name).ends j = (.ok (), plan.lookedUp name j) := by
  unfold lookUp lookedUp
  split <;> rfl

theorem ends_source (block : ParsedBlock) : (source plan block).ends j =
    match (plan.isIncluded block).ends j with
    | (.error e, i) => (.error e, i)
    | (.ok false, i) => (.ok (block, none), plan.skipped block.name i)
    | (.ok true, i) => (plan.sourceAdmitted block).ends (plan.lookedUp block.name i) := by
  rw [source_eq, Sourcing.ends_bind]
  generalize (plan.isIncluded block).ends j = r
  obtain ⟨outcome, i⟩ := r
  cases outcome with
  | error e => rfl
  | ok included =>
    cases included with
    | false => rfl
    | true =>
      simp only [↓reduceIte, Sourcing.ends_bind, ends_lookUp]

theorem ends_sourceAdmitted (block : ParsedBlock) : (plan.sourceAdmitted block).ends j =
    match (plan.attributesOf j.metadata block).outcome with
    | .error e => (.error e, j.noted (plan.attributesOf j.metadata block).records)
    | .ok attributes =>
      match (plan.sourceAll 0 block.inner).ends
          (j.noted (plan.attributesOf j.metadata block).records) with
      | (.error e, i) => (.error e, i)
      | (.ok (innerParsed, innerSourced), i) =>
        if plan.shows block.name then
          match (process block.name plan.postId (block.withInner innerParsed) 0
              (plan.draftOf block.name attributes innerSourced) plan.hooks.processors).ends i with
          | (.error e, k) => (.error e, k)
          | (.ok (sourced, parsed), k) => (.ok (parsed, some (settled sourced)), k)
        else (.error .tooDeep, i) := by
  rw [sourceAdmitted, Sourcing.ends_bind, Sourcing.ends_get]
  simp only [Sourcing.ends_bind, Sourcing.ends_ofNoted]
  cases (plan.attributesOf j.metadata block).outcome with
  | error e => rfl
  | ok attributes =>
    simp only
    generalize (plan.sourceAll 0 block.inner).ends _ = r
    obtain ⟨outcome, i⟩ := r
    cases outcome with
    | error e => rfl
    | ok found =>
      simp only [Sourcing.ends_ofExcept, shown_typeOf]
      cases plan.shows block.name with
      | false => rfl
      | true =>
        simp only [↓reduceIte]
        rw [← draftOf]
        generalize (process _ _ _ _ _ _).ends i = r
        obtain ⟨outcome, k⟩ := r
        cases outcome <;> rfl

theorem ends_source_of_admitted {i : Journal} {block : ParsedBlock}
    (h : (plan.isIncluded block).ends j = (.ok true, i)) : (source plan block).ends j =
      match (plan.attributesOf i.metadata block).outcome with
      | .error e => (.error e, plan.attributed block i)
      | .ok attributes =>
        match (plan.sourceAll 0 block.inner).ends (plan.attributed block i) with
        | (.error e, i) => (.error e, i)
        | (.ok (innerParsed, innerSourced), i) =>
          if plan.shows block.name then
            match (process block.name plan.postId (block.withInner innerParsed) 0
                (plan.draftOf block.name attributes innerSourced) plan.hooks.processors).ends i with
            | (.error e, k) => (.error e, k)
            | (.ok (sourced, parsed), k) => (.ok (parsed, some (settled sourced)), k)
          else (.error .tooDeep, i) := by
  rw [ends_source, h]
  simp only [ends_sourceAdmitted, lookedUp_metadata, attributed]

theorem ends_sourceAll_nil (number : Nat) : (plan.sourceAll number []).ends j = (.ok ([], []), j) := by
  rw [sourceAll, Sourcing.ends_pure]

theorem ends_sourceAll_cons (number : Nat) (block : ParsedBlock) (rest : List ParsedBlock) :
    (plan.sourceAll number (block :: rest)).ends j =
      match (plan.source block).ends j with
      | (.error e, i) => (.error e, i)
      | (.ok (parsed, sourced), i) =>
        match (plan.sourceAll (number + 1) rest).ends i with
        | (.error e, k) => (.error e, k)
        | (.ok (parsedRest, sourcedRest), k) =>
          (.ok (parsed :: parsedRest, (sourced.map (Draft.within number)).toList ++ sourcedRest), k) := by
  rw [sourceAll]
  simp only [Sourcing.ends_bind]
  generalize (plan.source block).ends j = r
  obtain ⟨outcome, i⟩ := r
  cases outcome with
  | error e => rfl
  | ok found =>
    simp only
    generalize (plan.sourceAll (number + 1) rest).ends i = r
    obtain ⟨outcome, k⟩ := r
    cases outcome <;> rfl

theorem ends_decision_cons (name : Option String) (block : ParsedBlock) (number : Nat)
    (included : Bool) (predicate : Predicate) (rest : List Predicate) :
    (decision name block number included (predicate :: rest)).ends j =
      match predicate included name block with
      | .error e => (.error e, j.called (.decided number included name block))
      | .ok answer => (decision name block (number + 1) answer.isTruthy rest).ends
          (j.called (.decided number included name block)) := by
  rw [decision]
  simp only [Sourcing.ends_bind, Sourcing.ends_called, Sourcing.ends_ofExcept]
  cases predicate included name block <;> rfl

/-- What a predicate makes of the decision on a block. -/
def decided (name : Option String) (block : ParsedBlock) (included : Bool) (predicate : Predicate) :
    Except Fault Bool :=
  (predicate included name block).map Value.isTruthy

/-- What the filter and then the predicates make of a block, each starting from the one before. -/
def verdict (plan : SourcingPlan) (block : ParsedBlock) : Except Fault Bool :=
  plan.hooks.predicates.foldlM (decided block.name block) (plan.filter.allows block.name)

/-- Whether a block is admitted. -/
def admitted (plan : SourcingPlan) (block : ParsedBlock) : Bool :=
  match plan.verdict block with
  | .ok answer => answer
  | .error _ => false

theorem ends_decision (name : Option String) (block : ParsedBlock) (number : Nat) (included : Bool)
    (predicates : List Predicate) : ∃ calls,
      (decision name block number included predicates).ends j =
        (predicates.foldlM (decided name block) included, j.calledAll calls) := by
  induction predicates generalizing number included j with
  | nil => exact ⟨[], congrArg (Prod.mk _) j.calledAll_nil.symm⟩
  | cons predicate rest ih =>
    rw [ends_decision_cons, List.foldlM_cons, decided]
    cases hp : predicate included name block with
    | error e => exact ⟨[_], congrArg (Prod.mk _) rfl⟩
    | ok answer =>
      obtain ⟨calls, hcalls⟩ := ih (j := j.called (.decided number included name block))
        (number + 1) answer.isTruthy
      refine ⟨.decided number included name block :: calls, ?_⟩
      rw [Journal.calledAll_cons]
      exact hcalls

theorem ends_isIncluded_verdict (plan : SourcingPlan) (block : ParsedBlock) (j : Journal) :
    ∃ calls, (plan.isIncluded block).ends j = (plan.verdict block, j.calledAll calls) :=
  ends_decision block.name block 0 _ _

/-- What becomes of a block when its sourcing succeeds. -/
theorem source_cases {block left : ParsedBlock} {sourced : Option Draft} {k : Journal}
    (h : (plan.source block).ends j = (.ok (left, sourced), k)) :
    ∃ calls, (plan.admitted block = false ∧ left = block ∧ sourced = none ∧
        k = plan.skipped block.name (j.calledAll calls)) ∨
      plan.admitted block = true ∧ ∃ attributes inner innerSourced processed l,
        (plan.attributesOf j.metadata block).outcome = .ok attributes ∧
        (plan.sourceAll 0 block.inner).ends (plan.attributed block (j.calledAll calls)) =
          (.ok (inner, innerSourced), l) ∧
        (process block.name plan.postId (block.withInner inner) 0
          (plan.draftOf block.name attributes innerSourced) plan.hooks.processors).ends l =
            (.ok (processed, left), k) ∧
        sourced = some (settled processed) := by
  obtain ⟨calls, hcalls⟩ := plan.ends_isIncluded_verdict block j
  refine ⟨calls, ?_⟩
  rw [admitted]
  cases hverdict : plan.verdict block with
  | error e =>
    rw [ends_source, hcalls, hverdict] at h
    cases h
  | ok answer =>
    rw [hverdict] at hcalls
    cases answer with
    | false =>
      rw [ends_source, hcalls] at h
      cases h
      exact .inl ⟨rfl, rfl, rfl, rfl⟩
    | true =>
      rw [ends_source_of_admitted hcalls] at h
      cases hattributes : (plan.attributesOf (j.calledAll calls).metadata block).outcome with
      | error e =>
        rw [hattributes] at h
        cases h
      | ok attributes =>
        rw [hattributes] at h
        simp only at h
        split at h
        · cases h
        · rename_i inner innerSourced l hinner
          split at h
          · split at h
            · cases h
            · rename_i hprocess
              cases h
              exact .inr
                ⟨rfl, attributes, inner, innerSourced, _, l, hattributes, hinner, hprocess, rfl⟩
          · cases h

theorem sourceAll_cons_cases {number : Nat} {block : ParsedBlock} {rest left : List ParsedBlock}
    {sourced : List Draft} {k : Journal}
    (h : (plan.sourceAll number (block :: rest)).ends j = (.ok (left, sourced), k)) :
    ∃ first draft? others drafts i, (plan.source block).ends j = (.ok (first, draft?), i) ∧
      (plan.sourceAll (number + 1) rest).ends i = (.ok (others, drafts), k) ∧
      left = first :: others ∧ sourced = (draft?.map (Draft.within number)).toList ++ drafts := by
  simp only [sourceAll, Sourcing.ends_bind_ok, Sourcing.ends_pure] at h
  obtain ⟨⟨first, draft?⟩, i, hfirst, ⟨others, drafts⟩, _, hrest, hpair⟩ := h
  cases hpair
  exact ⟨first, draft?, others, drafts, i, hfirst, hrest, rfl, rfl⟩

theorem ends_process_cons (name : Option String) (postId : Option Int) (block : ParsedBlock)
    (number : Nat) (sourced : Draft) (processor : Processor) (rest : List Processor) :
    (process name postId block number sourced (processor :: rest)).ends j =
      let called := j.called (.processed number sourced name postId block)
      let (outcome, changed) :=
        (processor sourced name postId block).run.run (j.changeable block.attrsAt)
      match outcome with
      | .error e => (.error e, called.changedTo changed)
      | .ok sourced =>
        (process name postId (block.withAttrsAt changed.attrs) (number + 1) sourced rest).ends
          (called.changedTo changed) := by
  rw [process]
  simp only [Sourcing.ends_bind, Sourcing.ends_called, Sourcing.ends_sharing]
  have hchangeable : (j.called (.processed number sourced name postId block)).changeable
      block.attrsAt = j.changeable block.attrsAt := rfl
  rw [hchangeable]
  generalize (processor sourced name postId block).run.run (j.changeable block.attrsAt) = r
  obtain ⟨outcome, changed⟩ := r
  cases outcome <;> rfl

end SourcingPlan
end EditorBlocks
