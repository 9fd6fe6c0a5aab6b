import EditorBlocks.Proofs.Hook.Debug
import EditorBlocks.Proofs.Sourcing.Runs
/-! Debug data: with it and without it, sourcing ends alike but for that data, as long as the
definitions can be shown and the processors do not ask for it. -/

namespace EditorBlocks

/-- A call without the debug data that it was given. -/
def HookCall.stripped : HookCall → HookCall
  | decided n included name block => decided n included name block
  | processed n sourced name postId block => processed n sourced.stripped name postId block

namespace Journal

/-- A journal without the debug data that hooks were given. -/
def stripped (j : Journal) : Journal := { j with calls := j.calls.map HookCall.stripped }

theorem metadata_of_stripped {i j : Journal} (h : i.stripped = j.stripped) :
    i.metadata = j.metadata := by
  have hmetadata : i.stripped.metadata = j.stripped.metadata := congrArg _ h
  exact hmetadata

theorem spoilt_of_stripped {i j : Journal} (h : i.stripped = j.stripped) : i.spoilt = j.spoilt := by
  have hspoilt : i.stripped.spoilt = j.stripped.spoilt := congrArg _ h
  exact hspoilt

theorem changeable_of_stripped {i j : Journal} (h : i.stripped = j.stripped) (attrs : PlacedAttrs) :
    i.changeable attrs = j.changeable attrs := by
  rw [changeable, changeable, metadata_of_stripped h, spoilt_of_stripped h]

theorem stripped_warn (j : Journal) (warning : String) :
    (j.warn warning).stripped = j.stripped.warn warning := by
  unfold warn
  split
  · rename_i h
    exact (if_pos h).symm
  · rename_i h
    exact (if_neg h).symm

theorem stripped_called (j : Journal) (call : HookCall) :
    (j.called call).stripped = j.stripped.called call.stripped := by
  rw [called, stripped, List.map_append]
  rfl

end Journal

namespace Sourcing
variable {α β γ δ : Type} {s : α → β} {t : γ → δ} {x y : Sourcing α} {f g : α → Sourcing γ}

/-- From journals that differ in debug data alone, two computations end in such journals, and with
values that are the same for what is seen of them. -/
def AlikeUpTo (s : α → β) (x y : Sourcing α) : Prop :=
  ∀ ⦃i j : Journal⦄, i.stripped = j.stripped →
    (x.ends i).1.map s = (y.ends j).1.map s ∧ (x.ends i).2.stripped = (y.ends j).2.stripped

theorem AlikeUpTo.bind (hx : AlikeUpTo s x y)
    (hf : ∀ a b, s a = s b → AlikeUpTo t (f a) (g b)) : AlikeUpTo t (x >>= f) (y >>= g) := by
  intro i j h
  obtain ⟨hvalue, hjournal⟩ := hx h
  rw [ends_bind, ends_bind]
  generalize x.ends i = ended at hvalue hjournal
  generalize y.ends j = ended' at hvalue hjournal
  obtain ⟨outcome, i'⟩ := ended
  obtain ⟨outcome', j'⟩ := ended'
  cases outcome with
  | error e =>
    cases outcome' with
    | error e' =>
      cases hvalue
      exact ⟨rfl, hjournal⟩
    | ok b => cases hvalue
  | ok a =>
    cases outcome' with
    | error e' => cases hvalue
    | ok b => exact hf a b (Except.ok.inj hvalue) hjournal

theorem alikeUpTo_pure {a b : α} (h : s a = s b) : AlikeUpTo s (pure a) (pure b) :=
  fun _ _ hj => ⟨congrArg Except.ok h, hj⟩

theorem alikeUpTo_get : AlikeUpTo Journal.stripped get get :=
  fun _ _ hj => ⟨congrArg Except.ok hj, hj⟩

theorem alikeUpTo_note (r : Log.Record) : AlikeUpTo id (note r) (note r) :=
  fun _ _ hj => ⟨rfl, congrArg (Journal.note · r) hj⟩

theorem alikeUpTo_warn (warning : String) : AlikeUpTo id (warn warning) (warn warning) := by
  intro i j hj
  rw [ends_warn, ends_warn, Journal.stripped_warn, Journal.stripped_warn, hj]
  exact ⟨rfl, rfl⟩

theorem alikeUpTo_called {c d : HookCall} (h : c.stripped = d.stripped) :
    AlikeUpTo id (called c) (called d) := by
  intro i j hj
  rw [ends_called, ends_called, Journal.stripped_called, Journal.stripped_called, hj, h]
  exact ⟨rfl, rfl⟩

theorem alikeUpTo_ofExcept (o : Except Fault α) : AlikeUpTo id (ofExcept o) (ofExcept o) :=
  fun _ _ hj => ⟨rfl, hj⟩

theorem alikeUpTo_ofNoted (z : Log.Noted Fault α) : AlikeUpTo id (ofNoted z) (ofNoted z) := by
  intro i j hj
  rw [ends_ofNoted, ends_ofNoted]
  exact ⟨rfl, congrArg (Journal.noted · z.records) hj⟩

theorem alikeUpTo_sharing {attrs : PlacedAttrs} {z w : ExceptT Fault (StateM Changeable) α}
    (h : ∀ before : Changeable, (z.run.run before).map (Except.map s) id =
      (w.run.run before).map (Except.map s) id) :
    AlikeUpTo (Prod.map s id) (sharing attrs z) (sharing attrs w) := by
  intro i j hj
  have hrun := h (j.changeable attrs)
  rw [ends_sharing, ends_sharing, Journal.changeable_of_stripped hj]
  generalize z.run.run (j.changeable attrs) = ended at hrun
  generalize w.run.run (j.changeable attrs) = ended' at hrun
  obtain ⟨outcome, changed⟩ := ended
  obtain ⟨outcome', changed'⟩ := ended'
  obtain ⟨houtcome, hchanged⟩ := Prod.mk.inj hrun
  cases (show changed = changed' from hchanged)
  refine ⟨?_, congrArg (Journal.changedTo · changed) hj⟩
  cases outcome with
  | error e =>
    cases outcome' with
    | error e' =>
      cases houtcome
      rfl
    | ok b => cases houtcome
  | ok a =>
    cases outcome' with
    | error e' => cases houtcome
    | ok b => exact congrArg (fun c => Except.ok (c, changed.attrs)) (Except.ok.inj houtcome)

end Sourcing

namespace SourcingPlan
open Sourcing

section Alike
variable {plan : SourcingPlan} {on : Bool}

/-- A plan that tells debug data, or does not. -/
def withDebug (plan : SourcingPlan) (debug : Bool) : SourcingPlan := { plan with debug := debug }

/-- The plan shows the definitions of every type if debug data is wanted. -/
def CanShow (plan : SourcingPlan) : Prop := ∀ name, (plan.typeOf name).all (·.isShowable)

theorem CanShow.shows (h : plan.CanShow) (name : Option String) : plan.shows name := by
  rw [SourcingPlan.shows, h name, Bool.or_true]

theorem alikeUpTo_decision (name : Option String) (block : ParsedBlock) (number : Nat)
    (included : Bool) (predicates : List Predicate) :
    AlikeUpTo id (decision name block number included predicates)
      (decision name block number included predicates) := by
  induction predicates generalizing number included with
  | nil => exact alikeUpTo_pure rfl
  | cons predicate rest ih =>
    refine (alikeUpTo_called rfl).bind fun _ _ _ => (alikeUpTo_ofExcept _).bind fun answer _ h => ?_
    cases h
    exact ih (number + 1) answer.isTruthy

theorem alikeUpTo_process (name : Option String) (postId : Option Int) (block : ParsedBlock)
    (number : Nat) {d e : Draft} (h : d.stripped = e.stripped) {processors : List Processor}
    (hq : ∀ q ∈ processors, q.IgnoresDebug) :
    AlikeUpTo (Prod.map Block.stripped id) (process name postId block number d processors)
      (process name postId block number e processors) := by
  induction processors generalizing block number d e with
  | nil => exact alikeUpTo_pure (congrArg (·, block) h)
  | cons q rest ih =>
    rw [List.forall_mem_cons] at hq
    have hcall : (HookCall.processed number d name postId block).stripped =
        (HookCall.processed number e name postId block).stripped :=
      congrArg (HookCall.processed number · name postId block) h
    refine (alikeUpTo_called hcall).bind fun _ _ _ =>
      (alikeUpTo_sharing (hq.1 h name postId block)).bind ?_
    rintro ⟨d', attrs⟩ ⟨e', attrs'⟩ hsame
    obtain ⟨hd, hattrs⟩ := Prod.mk.inj hsame
    cases (show attrs = attrs' from hattrs)
    exact ih (block.withAttrsAt attrs) (number + 1) hd hq.2

theorem alikeUpTo_lookUp (name : Option String) :
    AlikeUpTo id (plan.lookUp name) ((plan.withDebug on).lookUp name) := by
  change AlikeUpTo id (plan.lookUp name) (plan.lookUp name)
  unfold lookUp
  split
  · exact (alikeUpTo_note _).bind fun _ _ _ => alikeUpTo_warn _
  · exact alikeUpTo_pure rfl

theorem stripped_settled (d : Draft) : (settled d).stripped = settled d.stripped := by
  rw [settled, settled, Block.stripped_withAttributes, Block.stripped_attributes]

/-- Blocks that differ in debug data alone do so among others, too. -/
theorem stripped_within_of_stripped {number : Nat} {d? e? : Option Draft}
    (h : d?.map Block.stripped = e?.map Block.stripped) :
    (d?.map (Draft.within number)).map Block.stripped =
      (e?.map (Draft.within number)).map Block.stripped := by
  have hwithin : ∀ c? : Option Draft, (c?.map (Draft.within number)).map Block.stripped =
      (c?.map Block.stripped).map (Draft.within number) := by
    rintro (_ | c)
    · rfl
    · exact congrArg some (Block.stripped_mapValues _ c)
  rw [hwithin, hwithin, h]

/-- What is seen of a sourced block, and of sourced blocks, bar debug data. -/
def seen : ParsedBlock × Option Draft → ParsedBlock × Option Draft :=
  Prod.map id (Option.map Block.stripped)

def seenAll : List ParsedBlock × List Draft → List ParsedBlock × List Draft :=
  Prod.map id (List.map Block.stripped)

theorem alikeUpTo_sourceAdmitted (hq : ∀ q ∈ plan.hooks.processors, q.IgnoresDebug)
    (hshow : plan.CanShow) (block : ParsedBlock)
    (hinner : AlikeUpTo seenAll (plan.sourceAll 0 block.inner)
      ((plan.withDebug on).sourceAll 0 block.inner)) :
    AlikeUpTo seen (plan.sourceAdmitted block) ((plan.withDebug on).sourceAdmitted block) := by
  refine alikeUpTo_get.bind fun i j hij => ?_
  rw [Journal.metadata_of_stripped hij]
  refine (alikeUpTo_ofNoted _).bind fun attributes _ h => ?_
  cases h
  refine hinner.bind ?_
  rintro ⟨parsed, drafts⟩ ⟨parsed', drafts'⟩ hsame
  obtain ⟨hparsed, hdrafts⟩ := Prod.mk.inj hsame
  cases (show parsed = parsed' from hparsed)
  have hother : (plan.withDebug on).CanShow := hshow
  rw [shown_typeOf, shown_typeOf, if_pos (hshow.shows block.name), if_pos (hother.shows block.name)]
  refine AlikeUpTo.bind (s := fun _ => ()) (fun _ _ h => ⟨rfl, h⟩) fun debug debug' _ => ?_
  have hdraft : (Block.mk block.name (some attributes) drafts debug).stripped =
      (Block.mk block.name (some attributes) drafts' debug').stripped := by
    rw [Block.stripped, Block.stripped, Block.strippedList_eq_map, Block.strippedList_eq_map]
    exact congrArg (Block.mk _ _ · _) hdrafts
  refine (alikeUpTo_process block.name plan.postId _ 0 hdraft hq).bind ?_
  rintro ⟨d, left⟩ ⟨e, left'⟩ hlast
  obtain ⟨hd, hleft⟩ := Prod.mk.inj hlast
  cases (show left = left' from hleft)
  refine alikeUpTo_pure ?_
  change (left, some (settled d).stripped) = (left, some (settled e).stripped)
  rw [stripped_settled, stripped_settled, hd]

mutual
/-- Debug data makes no difference to how a block is sourced. -/
theorem alikeUpTo_source (hq : ∀ q ∈ plan.hooks.processors, q.IgnoresDebug)
    (hshow : plan.CanShow) : ∀ b : ParsedBlock,
    AlikeUpTo seen (plan.source b) ((plan.withDebug on).source b)
  | .mk name attrs html inner => by
    have hadmitted := alikeUpTo_sourceAdmitted hq hshow (.mk name attrs html inner)
      (alikeUpTo_sourceAll hq hshow inner 0)
    rw [source_eq, source_eq]
    refine (alikeUpTo_decision name (.mk name attrs html inner) 0 _ _).bind fun included _ h => ?_
    cases h
    cases included with
    | false => exact (alikeUpTo_note _).bind fun _ _ _ => alikeUpTo_pure rfl
    | true => exact (alikeUpTo_lookUp name).bind fun _ _ _ => hadmitted

theorem alikeUpTo_sourceAll (hq : ∀ q ∈ plan.hooks.processors, q.IgnoresDebug)
    (hshow : plan.CanShow) : ∀ (bs : List ParsedBlock) (number : Nat),
    AlikeUpTo seenAll (plan.sourceAll number bs) ((plan.withDebug on).sourceAll number bs)
  | [], number => by
    rw [sourceAll, sourceAll]
    exact alikeUpTo_pure rfl
  | b :: rest, number => by
    rw [sourceAll, sourceAll]
    refine (alikeUpTo_source hq hshow b).bind ?_
    rintro ⟨parsed, d?⟩ ⟨parsed', e?⟩ hfirst
    obtain ⟨hparsed, hd⟩ := Prod.mk.inj hfirst
    refine (alikeUpTo_sourceAll hq hshow rest (number + 1)).bind ?_
    rintro ⟨others, ds⟩ ⟨others', es⟩ hrest
    obtain ⟨hothers, hds⟩ := Prod.mk.inj hrest
    refine alikeUpTo_pure (Prod.ext ?_ ?_)
    · cases (show parsed = parsed' from hparsed)
      exact congrArg (parsed :: ·) hothers
    · change ((d?.map (Draft.within number)).toList ++ ds).map Block.stripped =
        ((e?.map (Draft.within number)).toList ++ es).map Block.stripped
      change ds.map Block.stripped = es.map Block.stripped at hds
      rw [List.map_append, List.map_append, hds, ← Option.toList_map, ← Option.toList_map,
        stripped_within_of_stripped hd]
end

end Alike

end SourcingPlan
end EditorBlocks
