import EditorBlocks.Proofs.Sourcing.Pruning
/-! Hooks that only compute: which calls they get while a forest is sourced, in which order and with
what, and which blocks they leave. -/

namespace EditorBlocks

/-- The work of a processor that neither fails nor changes anything in place: what it makes of a
sourced block, from the name that the block was parsed with, the post and the parsed block. -/
abbrev Work := Shared → Draft → (name : Option String) → (postId : Option Int) → ParsedBlock → Draft

def Processor.ofWork (work : Work) : Processor :=
  fun sourced name postId block => do return work (← get).toShared sourced name postId block

/-- Hooks that neither fail nor change anything in place, in the order of their registration. -/
structure Computations where
  answers : List Answer
  works : List Work

def Computations.hooks (c : Computations) : Hooks :=
  ⟨c.answers.map Predicate.ofAnswer, c.works.map Processor.ofWork⟩

/-- A step of sourcing at a block. -/
inductive Visit
  | call (call : HookCall)
  /-- the attributes of the block are sourced -/
  | attributes (block : ParsedBlock)
  /-- the type of the name is shown as debug data, if that is wanted -/
  | shown (name : Option String)

namespace Visit

/-- Whether the step succeeds, which calls of computing hooks always do. -/
def succeeds (plan : SourcingPlan) (metadata : Metadata) : Visit → Bool
  | call _ => true
  | attributes block => (plan.attributesOf metadata block).outcome.isOk
  | shown name => plan.shows name

/-- The steps up to the first one that fails. -/
def reached (plan : SourcingPlan) (metadata : Metadata) (visits : List Visit) : List Visit :=
  visits.takeWhile (·.succeeds plan metadata)

def allSucceed (plan : SourcingPlan) (metadata : Metadata) (visits : List Visit) : Bool :=
  visits.all (·.succeeds plan metadata)

/-- The calls among steps. -/
def calls (visits : List Visit) : List HookCall :=
  visits.filterMap fun
    | call c => some c
    | attributes _ | shown _ => none

section Reached
variable {plan : SourcingPlan} {metadata : Metadata} {vs ws : List Visit} {cs : List HookCall}

theorem calls_append : calls (vs ++ ws) = calls vs ++ calls ws := List.filterMap_append

theorem calls_map_call : calls (cs.map call) = cs := by
  induction cs with
  | nil => rfl
  | cons c rest ih => exact congrArg (c :: ·) ih

theorem allSucceed_append :
    allSucceed plan metadata (vs ++ ws) =
      (allSucceed plan metadata vs && allSucceed plan metadata ws) :=
  List.all_append

theorem allSucceed_map_call : allSucceed plan metadata (cs.map call) = true := by
  rw [allSucceed, List.all_map]
  exact List.all_eq_true.mpr fun _ _ => rfl

theorem reached_of_allSucceed (h : allSucceed plan metadata vs = true) :
    reached plan metadata vs = vs := by
  have happend : (vs ++ []).takeWhile (·.succeeds plan metadata) = vs ++ [].takeWhile _ :=
    List.takeWhile_append_of_pos (List.all_eq_true.mp h)
  rwa [List.append_nil, List.takeWhile_nil, List.append_nil] at happend

theorem reached_append : reached plan metadata (vs ++ ws) =
    if allSucceed plan metadata vs then vs ++ reached plan metadata ws
    else reached plan metadata vs := by
  split
  · rename_i h
    exact List.takeWhile_append_of_pos (List.all_eq_true.mp h)
  · rename_i h
    induction vs with
    | nil => exact absurd rfl h
    | cons v rest ih =>
      rw [List.cons_append, reached, reached, List.takeWhile_cons, List.takeWhile_cons]
      split
      · rename_i hv
        rw [allSucceed, List.all_cons, hv, Bool.true_and] at h
        exact congrArg (v :: ·) (ih h)
      · rfl

end Reached

end Visit

namespace SourcingPlan

/-- The calls of the predicates on a block: the first one is given what the filter says, each other
one the truth of what the one before has answered, and all of them the name and the block. -/
def predicateCalls (filter : BlockFilter) (answers : List Answer) (block : ParsedBlock) :
    List HookCall :=
  (List.range answers.length).map fun n =>
    .decided n (admits filter (answers.take n) block) block.name block

/-- What works make of a sourced block, one after another. -/
def worked (shared : Shared) (name : Option String) (postId : Option Int) (block : ParsedBlock)
    (works : List Work) (sourced : Draft) : Draft :=
  works.foldl (fun sourced work => work shared sourced name postId block) sourced

/-- The calls of the processors on a block: each is given what the ones before have made, and with
it the name that the block was parsed with, the post and the parsed block. -/
def processorCalls (shared : Shared) (postId : Option Int) (block : ParsedBlock)
    (works : List Work) (sourced : Draft) : List HookCall :=
  (List.range works.length).map fun n =>
    .processed n (worked shared block.name postId block (works.take n) sourced) block.name postId
      block

section Forest
variable (plan : SourcingPlan) (c : Computations) (metadata : Metadata)

/-- The block that the first processor is given, with the blocks that are already left inside. -/
def drafted (block : ParsedBlock) (inner : List Draft) : Draft :=
  plan.draftOf block.name ((plan.attributesOf metadata block).outcome.toOption.getD []) inner

/-- The last processor's work on a block. -/
def finished (block : ParsedBlock) (inner : List Draft) : Draft :=
  worked ⟨metadata, block.attrsAt⟩ block.name plan.postId block c.works
    (plan.drafted metadata block inner)

mutual
/-- What is left of a block in the end, if it is admitted: the last processor's work, with empty
attributes if it has none. -/
def leftOf : ParsedBlock → Option Draft
  | .mk name attrs html inner =>
    let block := ParsedBlock.mk name attrs html inner
    if admits plan.filter c.answers block then
      let last := plan.finished c metadata block (leftOfList 0 inner)
      some (.mk last.name (some (last.attributes.getD [])) last.inner last.debug)
    else none

def leftOfList (number : Nat) : List ParsedBlock → List Draft
  | [] => []
  | block :: rest =>
    ((leftOf block).map (Draft.within number)).toList ++ leftOfList (number + 1) rest
end

mutual
/-- The steps at a block: the predicates come first, and if they admit the block, its attributes,
the blocks inside, its debug data and then the processors. -/
def visits : ParsedBlock → List Visit
  | .mk name attrs html inner =>
    let block := ParsedBlock.mk name attrs html inner
    (predicateCalls plan.filter c.answers block).map .call ++
      if admits plan.filter c.answers block then
        .attributes block :: (visitsOfList inner ++ (.shown name ::
          (processorCalls ⟨metadata, block.attrsAt⟩ plan.postId block c.works
            (plan.drafted metadata block (leftOfList plan c metadata 0 inner))).map .call))
      else []

def visitsOfList : List ParsedBlock → List Visit
  | [] => []
  | block :: rest => visits block ++ visitsOfList rest
end

end Forest

/-- Over this metadata a computation makes the calls of its steps up to the first one that fails. If
none fails it ends with the given result. -/
def Follows (plan : SourcingPlan) (metadata : Metadata) {α : Type} (x : Sourcing α)
    (visits : List Visit) (a : α) : Prop :=
  ∀ j : Journal, j.metadata = metadata →
    (x.ends j).2.metadata = metadata ∧
    (x.ends j).2.calls = j.calls ++ Visit.calls (Visit.reached plan metadata visits) ∧
    if Visit.allSucceed plan metadata visits then (x.ends j).1 = .ok a
    else ∃ e, (x.ends j).1 = .error e

section Follows
variable {plan : SourcingPlan} {c : Computations} {metadata : Metadata} {j : Journal} {α β : Type}
  {x : Sourcing α} {f : α → Sourcing β} {a : α} {b : β} {vs ws : List Visit}

theorem Follows.bind (hx : Follows plan metadata x vs a) (hf : Follows plan metadata (f a) ws b) :
    Follows plan metadata (x >>= f) (vs ++ ws) b := by
  intro j hj
  obtain ⟨hm, hcalls, hend⟩ := hx j hj
  rw [Sourcing.ends_bind, Visit.reached_append, Visit.allSucceed_append]
  generalize x.ends j = ended at hm hcalls hend
  obtain ⟨outcome, i⟩ := ended
  by_cases hall : Visit.allSucceed plan metadata vs
  · rw [if_pos hall] at hend
    rw [Visit.reached_of_allSucceed hall] at hcalls
    change outcome = .ok a at hend
    change i.calls = _ at hcalls
    obtain ⟨hmf, hcallsf, hendf⟩ := hf i hm
    rw [hend, if_pos hall, hall, Bool.true_and, Visit.calls_append, ← List.append_assoc, ← hcalls]
    exact ⟨hmf, hcallsf, hendf⟩
  · rw [if_neg hall] at hend
    obtain ⟨e, he⟩ := hend
    change outcome = _ at he
    rw [Bool.not_eq_true] at hall
    rw [he, if_neg (by simp [hall]), hall, Bool.false_and]
    exact ⟨hm, hcalls, e, rfl⟩

/-- A step without calls. -/
theorem follows_of_ends (h : ∀ j : Journal, j.metadata = metadata →
    (x.ends j).1 = .ok a ∧ (x.ends j).2.metadata = metadata ∧ (x.ends j).2.calls = j.calls) :
    Follows plan metadata x [] a := by
  intro j hj
  obtain ⟨ha, hm, hc⟩ := h j hj
  exact ⟨hm, hc.trans (List.append_nil _).symm, ha⟩

theorem follows_pure (a : α) : Follows plan metadata (pure a) [] a :=
  follows_of_ends fun _ hj => ⟨rfl, hj, rfl⟩

theorem follows_note (r : Log.Record) : Follows plan metadata (Sourcing.note r) [] () :=
  follows_of_ends fun _ hj => ⟨rfl, hj, rfl⟩

theorem follows_warn (warning : String) : Follows plan metadata (Sourcing.warn warning) [] () := by
  apply follows_of_ends
  intro j hj
  rw [Sourcing.ends_warn]
  unfold Journal.warn
  split <;> exact ⟨rfl, hj, rfl⟩

theorem follows_calls {cs : List HookCall}
    (h : ∀ j : Journal, j.metadata = metadata → x.ends j = (.ok a, j.calledAll cs)) :
    Follows plan metadata x (cs.map .call) a := by
  intro j hj
  rw [h j hj, Visit.reached_of_allSucceed Visit.allSucceed_map_call, Visit.calls_map_call,
    if_pos Visit.allSucceed_map_call]
  exact ⟨hj, rfl, rfl⟩

theorem Follows.get_bind {f : Journal → Sourcing β}
    (h : ∀ j : Journal, j.metadata = metadata → Follows plan metadata (f j) vs b) :
    Follows plan metadata (get >>= f) vs b := by
  intro j hj
  rw [Sourcing.ends_bind, Sourcing.ends_get]
  exact h j hj j hj

/-- A step without calls that may fail. -/
theorem follows_visit {v : Visit} {o : Except Fault α} (hcalls : Visit.calls [v] = [])
    (hok : v.succeeds plan metadata = o.isOk) (ha : ∀ b, o = .ok b → b = a)
    (h : ∀ j : Journal, j.metadata = metadata →
      (x.ends j).1 = o ∧ (x.ends j).2.metadata = metadata ∧ (x.ends j).2.calls = j.calls) :
    Follows plan metadata x [v] a := by
  intro j hj
  obtain ⟨ho, hm, hc⟩ := h j hj
  rw [Visit.allSucceed, List.all_cons, List.all_nil, Bool.and_true, hok, ho, hc, Visit.reached,
    List.takeWhile_cons, List.takeWhile_nil]
  refine ⟨hm, ?_, ?_⟩
  · split
    · rw [hcalls, List.append_nil]
    · exact (List.append_nil _).symm
  · cases o with
    | ok b =>
      rw [ha b rfl]
      rfl
    | error e => exact ⟨e, rfl⟩

theorem follows_attributes (block : ParsedBlock) :
    Follows plan metadata (Sourcing.ofNoted (plan.attributesOf metadata block))
      [.attributes block] ((plan.attributesOf metadata block).outcome.toOption.getD []) := by
  refine follows_visit (o := (plan.attributesOf metadata block).outcome) rfl rfl ?_
    fun _ hj => ⟨rfl, hj, rfl⟩
  intro attributes h
  rw [h]
  rfl

theorem follows_shown (name : Option String) :
    Follows plan metadata (Sourcing.ofExcept (plan.shown (plan.typeOf name))) [.shown name]
      (if plan.debug then some (debugData (plan.typeOf name)) else none) := by
  refine follows_visit (o := plan.shown (plan.typeOf name)) rfl ?_ ?_ fun _ hj => ⟨rfl, hj, rfl⟩
  · rw [shown_typeOf, Visit.succeeds]
    cases plan.shows name <;> rfl
  · intro debug h
    rw [shown_typeOf] at h
    split at h <;> cases h
    rfl

section Steps
variable {block : ParsedBlock}

theorem ends_decision_calls (name : Option String) (answers : List Answer) (number : Nat)
    (included : Bool) :
    (decision name block number included (answers.map Predicate.ofAnswer)).ends j =
      (.ok (answers.foldl (fun included answer => (answer included name block).isTruthy) included),
        j.calledAll ((List.range answers.length).map fun n => .decided (number + n)
          ((answers.take n).foldl (fun included answer => (answer included name block).isTruthy)
            included) name block)) := by
  induction answers generalizing number included j with
  | nil =>
    rw [List.length_nil, List.range_zero, List.map_nil, List.map_nil, Journal.calledAll_nil]
    rfl
  | cons answer rest ih =>
    rw [List.map_cons, ends_decision_cons]
    change (decision name block (number + 1) (answer included name block).isTruthy _).ends _ = _
    rw [ih, List.length_cons, List.range_succ_eq_map, List.map_cons, List.map_map,
      Journal.calledAll_cons]
    simp only [Function.comp_def, List.take_succ_cons, List.foldl_cons, Nat.add_assoc,
      Nat.add_comm 1]
    rfl

theorem ends_isIncluded_calls (hp : plan.hooks = c.hooks) :
    (plan.isIncluded block).ends j = (.ok (admits plan.filter c.answers block),
      j.calledAll (predicateCalls plan.filter c.answers block)) := by
  rw [isIncluded, hp, Computations.hooks, ends_decision_calls]
  simp only [Nat.zero_add]
  rfl

theorem ends_process_calls (name : Option String) (postId : Option Int) (number : Nat)
    (sourced : Draft) (works : List Work) :
    (process name postId block number sourced (works.map Processor.ofWork)).ends j =
      (.ok (worked ⟨j.metadata, block.attrsAt⟩ name postId block works sourced, block),
        j.calledAll ((List.range works.length).map fun n => .processed (number + n)
          (worked ⟨j.metadata, block.attrsAt⟩ name postId block (works.take n) sourced) name postId
            block)) := by
  induction works generalizing number sourced j with
  | nil =>
    rw [List.length_nil, List.range_zero, List.map_nil, List.map_nil, Journal.calledAll_nil]
    rfl
  | cons work rest ih =>
    rw [List.map_cons, ends_process_cons]
    change (process name postId (block.withAttrsAt block.attrsAt) (number + 1)
      (work ⟨j.metadata, block.attrsAt⟩ sourced name postId block) _).ends _ = _
    rw [ParsedBlock.withAttrsAt_attrsAt, ih, List.length_cons, List.range_succ_eq_map,
      List.map_cons, List.map_map, Journal.calledAll_cons]
    simp only [Function.comp_def, List.take_succ_cons, worked, List.foldl_cons, Nat.add_assoc,
      Nat.add_comm 1]
    rfl

end Steps

theorem follows_lookUp (name : Option String) :
    Follows plan metadata (plan.lookUp name) [] () := by
  unfold lookUp
  split
  · exact (follows_note _).bind (follows_warn _)
  · exact follows_pure _

theorem follows_process (hp : plan.hooks = c.hooks) (block : ParsedBlock) (sourced : Draft) :
    Follows plan metadata (process block.name plan.postId block 0 sourced plan.hooks.processors)
      ((processorCalls ⟨metadata, block.attrsAt⟩ plan.postId block c.works sourced).map .call)
      (worked ⟨metadata, block.attrsAt⟩ block.name plan.postId block c.works sourced, block) := by
  refine follows_calls fun j hj => ?_
  rw [hp, ← hj]
  exact (ends_process_calls block.name plan.postId 0 sourced c.works).trans
    (by simp only [Nat.zero_add]; rfl)

theorem follows_sourceAdmitted (hp : plan.hooks = c.hooks) (block : ParsedBlock)
    {drafts : List Draft}
    (hinner : Follows plan metadata (plan.sourceAll 0 block.inner) vs (block.inner, drafts)) :
    Follows plan metadata (plan.sourceAdmitted block)
      (.attributes block :: (vs ++ (.shown block.name ::
        (processorCalls ⟨metadata, block.attrsAt⟩ plan.postId block c.works
          (plan.drafted metadata block drafts)).map .call)))
      (block, some (settled (plan.finished c metadata block drafts))) := by
  have hsame : block.withInner block.inner = block := by cases block; rfl
  rw [sourceAdmitted, ← List.append_nil (List.map _ _)]
  refine .get_bind fun j hj => ?_
  rw [hj]
  refine (follows_attributes block).bind (hinner.bind ((follows_shown block.name).bind ?_))
  simp only [hsame]
  exact (follows_process hp block _).bind (follows_pure _)

mutual
/-- The sourcing of a block follows its steps. -/
theorem follows_source (hp : plan.hooks = c.hooks) : ∀ b : ParsedBlock,
    Follows plan metadata (plan.source b) (plan.visits c metadata b) (b, plan.leftOf c metadata b)
  | .mk name attrs html inner => by
    have hadmitted := follows_sourceAdmitted hp (.mk name attrs html inner)
      (follows_sourceAll hp inner 0)
    rw [settled_eq] at hadmitted
    rw [source_eq, visits, leftOf]
    refine (follows_calls fun j _ => ends_isIncluded_calls hp).bind ?_
    by_cases ha : admits plan.filter c.answers (.mk name attrs html inner)
    · rw [if_pos ha, if_pos ha, ha, if_pos rfl]
      exact (follows_lookUp name).bind hadmitted
    · rw [if_neg ha, if_neg ha, if_neg ha]
      exact (follows_note _).bind (follows_pure _)

theorem follows_sourceAll (hp : plan.hooks = c.hooks) : ∀ (bs : List ParsedBlock) (number : Nat),
    Follows plan metadata (plan.sourceAll number bs) (plan.visitsOfList c metadata bs)
      (bs, plan.leftOfList c metadata number bs)
  | [], number => by
    rw [sourceAll]
    exact follows_pure _
  | b :: rest, number => by
    rw [sourceAll, visitsOfList, leftOfList, ← List.append_nil (plan.visitsOfList c metadata rest)]
    exact (follows_source hp b).bind ((follows_sourceAll hp rest _).bind (follows_pure _))
end

end Follows

/-- Hooks that only compute are called block by block: all predicates on a block, each given the
truth of what the one before has answered, and no more for a block that is turned down, nor for any
block inside; else the calls for the blocks inside and then all processors, each given the block that
the one before has made, and all of them the parsed block, the name it was parsed with and the post.
What the last one makes is left, with empty attributes if it has none. Calls end early only where the
attributes of a block cannot be sourced, or its type cannot be shown. -/
theorem sourceAll_calls (plan : SourcingPlan) (c : Computations) (number : Nat)
    (bs : List ParsedBlock) (j : Journal) :
    let computing : SourcingPlan := { plan with hooks := c.hooks }
    let steps := computing.visitsOfList c j.metadata bs
    let ended := (computing.sourceAll number bs).ends j
    ended.2.calls = j.calls ++ Visit.calls (Visit.reached computing j.metadata steps) ∧
      if Visit.allSucceed computing j.metadata steps then
        ended.1 = .ok (bs, computing.leftOfList c j.metadata number bs) ∧
          ended.2.calls = j.calls ++ Visit.calls steps
      else ∃ e, ended.1 = .error e := by
  intro computing steps ended
  have hfollows : Follows computing j.metadata (computing.sourceAll number bs) steps
      (bs, computing.leftOfList c j.metadata number bs) := follows_sourceAll rfl bs number
  obtain ⟨-, hcalls, hend⟩ := hfollows j rfl
  change ended.2.calls = j.calls ++ Visit.calls (Visit.reached computing j.metadata steps) at hcalls
  change if Visit.allSucceed computing j.metadata steps then
    ended.1 = .ok (bs, computing.leftOfList c j.metadata number bs)
    else ∃ e, ended.1 = .error e at hend
  refine ⟨hcalls, ?_⟩
  by_cases hall : Visit.allSucceed computing j.metadata steps
  · rw [if_pos hall] at hend ⊢
    rw [Visit.reached_of_allSucceed hall] at hcalls
    exact ⟨hend, hcalls⟩
  · rw [if_neg hall] at hend ⊢
    exact hend

end SourcingPlan
end EditorBlocks
