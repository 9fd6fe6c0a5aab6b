import EditorBlocks.Proofs.Attribute.Merge
import EditorBlocks.Proofs.Hook.Reach
import EditorBlocks.Proofs.Sourcing.Echo
/-! Parsed blocks apart from sourced ones: processors that know explicit attributes only by what they are
given get at those of blocks that are admitted, at any depth, and at no others. -/

namespace EditorBlocks

namespace Draft

mutual
theorem places_within (number : Nat) : ∀ d : Draft,
    places (d.within number) = (places d).map (number :: ·)
  | .mk name attributes inner debug => by
    have hattributes : Held.placesOfMembers ((attributes.map fun es =>
        es.map fun e => (e.1, e.2.within number)).getD []) =
          (Held.placesOfMembers (attributes.getD [])).map (number :: ·) := by
      cases attributes with
      | none => rfl
      | some es =>
        simp only [Option.map_some, Option.getD_some, Held.placesOfMembers_eq, List.flatMap_map,
          List.map_flatMap, Held.places_within]
    rw [within, Block.mapValues, places, places, List.map_append, hattributes,
      placesOfList_within number inner]

theorem placesOfList_within (number : Nat) : ∀ ds : List Draft,
    placesOfList (Block.mapValuesOfList (Held.within number) ds) =
      (placesOfList ds).map (number :: ·)
  | [] => rfl
  | d :: rest => by
    rw [Block.mapValuesOfList, placesOfList, placesOfList, List.map_append,
      placesOfList_within number rest]
    exact congrArg (· ++ _) (places_within number d)
end

theorem placesOfList_singleton (d : Draft) : placesOfList [d] = d.places := List.append_nil _

theorem placesOfList_within_toList (number : Nat) (d? : Option Draft) :
    placesOfList (d?.map (Draft.within number)).toList =
      (placesOfList d?.toList).map (number :: ·) := by
  cases d? with
  | none => rfl
  | some d =>
    rw [Option.map_some, Option.toList_some, Option.toList_some, placesOfList_singleton,
      placesOfList_singleton, places_within]

theorem placesOfList_append (ds es : List Draft) :
    placesOfList (ds ++ es) = placesOfList ds ++ placesOfList es := by
  simp only [placesOfList_eq, List.flatMap_append]

end Draft

namespace ParsedBlock
variable {admits : ParsedBlock → Bool}

mutual
/-- The places of the blocks from this one down that are admitted with all blocks around them. -/
def enteredPlaces (admits : ParsedBlock → Bool) : ParsedBlock → List (List Nat)
  | mk name attrs html inner =>
    if admits (mk name attrs html inner) then [] :: enteredPlacesAmong admits 0 inner else []

def enteredPlacesAmong (admits : ParsedBlock → Bool) (number : Nat) :
    List ParsedBlock → List (List Nat)
  | [] => []
  | b :: rest =>
    (enteredPlaces admits b).map (number :: ·) ++ enteredPlacesAmong admits (number + 1) rest
end

theorem enteredPlaces_of_admits {b : ParsedBlock} (h : admits b = true) :
    enteredPlaces admits b = [] :: enteredPlacesAmong admits 0 b.inner := by
  cases b
  exact if_pos h

theorem enteredPlaces_of_not_admits {b : ParsedBlock} (h : admits b = false) :
    enteredPlaces admits b = [] := by
  cases b
  exact if_neg (Bool.not_eq_true _ ▸ h)

theorem exists_of_mem_enteredPlacesAmong {bs : List ParsedBlock} {number : Nat} {place : List Nat}
    (h : place ∈ enteredPlacesAmong admits number bs) : ∃ n below, place = n :: below ∧ number ≤ n := by
  induction bs generalizing number with
  | nil => cases h
  | cons b rest ih =>
    rcases List.mem_append.mp h with h | h
    · obtain ⟨below, -, rfl⟩ := List.mem_map.mp h
      exact ⟨number, below, rfl, Nat.le_refl _⟩
    · obtain ⟨n, below, rfl, hn⟩ := ih h
      exact ⟨n, below, rfl, Nat.le_of_succ_le hn⟩

theorem mem_enteredPlacesAmong_head {b : ParsedBlock} {rest : List ParsedBlock} {number : Nat}
    {place : List Nat} : number :: place ∈ enteredPlacesAmong admits number (b :: rest) ↔
      place ∈ enteredPlaces admits b := by
  have hlater : number :: place ∉ enteredPlacesAmong admits (number + 1) rest := by
    intro h
    obtain ⟨n, below, he, hn⟩ := exists_of_mem_enteredPlacesAmong h
    cases he
    exact Nat.not_succ_le_self _ hn
  simp [enteredPlacesAmong, hlater]

theorem mem_enteredPlacesAmong_tail {b : ParsedBlock} {rest : List ParsedBlock} {number n : Nat}
    {place : List Nat} (hn : number < n) :
    n :: place ∈ enteredPlacesAmong admits number (b :: rest) ↔
      n :: place ∈ enteredPlacesAmong admits (number + 1) rest := by
  simp [enteredPlacesAmong, Nat.ne_of_lt hn]

end ParsedBlock

namespace SourcingPlan
open ParsedBlock (enteredPlaces enteredPlacesAmong enteredPlaces_of_admits enteredPlaces_of_not_admits
  mem_enteredPlacesAmong_head mem_enteredPlacesAmong_tail areOf_attrsAt withAttrsAt_attrsAt
  withAttrsAmong)
variable {plan : SourcingPlan} {i j : Journal}

/-- A parsed block and what is left of it when only explicit attributes of blocks are changed that are
admitted with all blocks around them. -/
inductive Spares (plan : SourcingPlan) : ParsedBlock → ParsedBlock → Prop
  | turnedDown {block : ParsedBlock} (h : plan.admitted block = false) : Spares plan block block
  | entered {name : Option String} {attrs attrs' : List (String × Value)} {html : String}
      {inner left : List ParsedBlock} (h : plan.admitted (.mk name attrs html inner) = true)
      (hinner : List.Forall₂ (Spares plan) inner left) :
      Spares plan (.mk name attrs html inner) (.mk name attrs' html left)

mutual
/-- Other blocks stay as they are when attributes are replaced at the places of entered ones. -/
theorem Spares.withAttrsAt : ∀ (b : ParsedBlock) {left : ParsedBlock} {attrs : PlacedAttrs},
    plan.Spares b left →
    (∀ place ∉ b.enteredPlaces plan.admitted, attrs place = left.attrsAt place) →
    plan.Spares b (left.withAttrsAt attrs)
  | b, _, attrs, .turnedDown h, hkept => by
    rw [enteredPlaces_of_not_admits h] at hkept
    have hsame : attrs = b.attrsAt := funext fun place => hkept place List.not_mem_nil
    rw [hsame, withAttrsAt_attrsAt]
    exact .turnedDown h
  | .mk name before html inner, .mk _ after _ left, attrs, .entered h hinner, hkept => by
    rw [enteredPlaces_of_admits h] at hkept
    rw [ParsedBlock.withAttrsAt]
    refine .entered h (sparesAll_withAttrsAmong inner hinner
      (areOf_attrsAt (.mk name after html left)) fun n _ place hplace => ?_)
    refine hkept (n :: place) ?_
    rw [List.mem_cons, not_or]
    exact ⟨List.cons_ne_nil _ _, hplace⟩

theorem sparesAll_withAttrsAmong : ∀ (bs : List ParsedBlock) {ls : List ParsedBlock} {number : Nat}
    {attrs attrs' : PlacedAttrs}, List.Forall₂ plan.Spares bs ls → attrs'.AreOf number ls →
    (∀ n, number ≤ n → ∀ place, n :: place ∉ enteredPlacesAmong plan.admitted number bs →
      attrs (n :: place) = attrs' (n :: place)) →
    List.Forall₂ plan.Spares bs (withAttrsAmong attrs number ls)
  | [], _, _, _, _, .nil, _, _ => .nil
  | b :: rest, l :: ls, number, attrs, attrs', .cons h hrest, ⟨hl, hls⟩, hkept => by
    rw [withAttrsAmong]
    refine .cons (Spares.withAttrsAt b h fun place hplace => ?_)
      (sparesAll_withAttrsAmong rest hrest hls fun n hn place hplace => ?_)
    · rw [← hl]
      exact hkept number (Nat.le_refl _) place (mt mem_enteredPlacesAmong_head.mp hplace)
    · exact hkept n (Nat.le_of_succ_le hn) place (mt (mem_enteredPlacesAmong_tail hn).mp hplace)
end

/-- Processors in reach of nothing but entered blocks stay there. -/
theorem spares_of_process {name : Option String} {postId : Option Int}
    {processors : List Processor}
    (hq : ∀ q ∈ processors, q.StaysInReach) {b block left : ParsedBlock} {number : Nat}
    {sourced processed : Draft} (hb : plan.Spares b block)
    (hreach : sourced.reach ⊆ b.enteredPlaces plan.admitted)
    (h : (process name postId block number sourced processors).ends j =
      (.ok (processed, left), i)) :
    plan.Spares b left ∧ processed.reach ⊆ b.enteredPlaces plan.admitted := by
  induction processors generalizing block number sourced j with
  | nil =>
    rw [process, Sourcing.ends_pure] at h
    cases h
    exact ⟨hb, hreach⟩
  | cons processor rest ih =>
    rw [List.forall_mem_cons] at hq
    obtain ⟨hkept, hmade⟩ := hq.1 sourced name postId block (j.changeable block.attrsAt)
    rw [ends_process_cons] at h
    generalize (processor sourced name postId block).run.run (j.changeable block.attrsAt) = ended
      at h hkept hmade
    obtain ⟨outcome, shared⟩ := ended
    cases outcome with
    | error e => cases h
    | ok next =>
      refine ih hq.2 (Spares.withAttrsAt b hb fun place hplace => ?_) ?_ h
      · exact hkept place fun hmem => hplace (hreach hmem)
      · exact List.Subset.trans (hmade next rfl) hreach

theorem reach_draftOf {block : ParsedBlock} {attributes : List (String × Held)}
    {metadata : Metadata} {places : List (List Nat)}
    (h : (plan.attributesOf metadata block).outcome = .ok attributes) (inner : List Draft)
    (hown : [] ∈ places) (hinner : Draft.placesOfList inner ⊆ places) :
    Draft.reach (plan.draftOf block.name attributes inner) ⊆ places := by
  refine Draft.reach_subset hown ?_ hinner
  change Held.placesOfMembers attributes ⊆ places
  rw [Held.placesOfMembers_eq]
  intro place hplace
  obtain ⟨m, hm, hplace⟩ := List.mem_flatMap.mp hplace
  rw [places_of_sourced h m hm place hplace]
  exact hown

theorem reach_settled (d : Draft) : Draft.reach (settled d) ⊆ d.reach :=
  Draft.reach_withAttributes d.attributes_subset_reach

mutual
/-- Sourcing spares the blocks that are not entered, and what it makes of a block has only entered
ones in reach. -/
theorem spares_of_source (hq : ∀ q ∈ plan.hooks.processors, q.StaysInReach) :
    ∀ (b : ParsedBlock) {j i : Journal} {left : ParsedBlock} {sourced : Option Draft},
      (plan.source b).ends j = (.ok (left, sourced), i) →
      plan.Spares b left ∧
        Draft.placesOfList sourced.toList ⊆ b.enteredPlaces plan.admitted
  | .mk name attrs html inner, j, i, left, sourced, h => by
    obtain ⟨calls, ⟨hadmitted, rfl, rfl, -⟩ | ⟨hadmitted, attributes, left', drafts, processed, _,
      hattributes, hinner, hprocess, rfl⟩⟩ := source_cases h
    · exact ⟨.turnedDown hadmitted, List.nil_subset _⟩
    · obtain ⟨hspared, hdrafts⟩ := spares_of_sourceAll hq inner hinner
      have hentered := enteredPlaces_of_admits hadmitted
      have hreach : Draft.reach (plan.draftOf name attributes drafts) ⊆
          enteredPlaces plan.admitted (.mk name attrs html inner) := by
        rw [hentered]
        exact reach_draftOf hattributes drafts List.mem_cons_self (List.subset_cons_of_subset [] hdrafts)
      obtain ⟨hleft, hprocessed⟩ :=
        spares_of_process hq (.entered hadmitted hspared) hreach hprocess
      refine ⟨hleft, ?_⟩
      rw [Option.toList_some, Draft.placesOfList_singleton]
      exact List.Subset.trans (List.subset_cons_self _ _)
        (List.Subset.trans (reach_settled processed) hprocessed)

theorem spares_of_sourceAll (hq : ∀ q ∈ plan.hooks.processors, q.StaysInReach) :
    ∀ (bs : List ParsedBlock) {number : Nat} {j i : Journal} {left : List ParsedBlock}
      {sourced : List Draft}, (plan.sourceAll number bs).ends j = (.ok (left, sourced), i) →
      List.Forall₂ plan.Spares bs left ∧
        Draft.placesOfList sourced ⊆ enteredPlacesAmong plan.admitted number bs
  | [], number, j, i, left, sourced, h => by
    rw [ends_sourceAll_nil] at h
    cases h
    exact ⟨.nil, List.nil_subset _⟩
  | b :: rest, number, j, i, left, sourced, h => by
    obtain ⟨_, draft?, _, _, _, hfirst, hrest, rfl, rfl⟩ := sourceAll_cons_cases h
    obtain ⟨hb, hd⟩ := spares_of_source hq b hfirst
    obtain ⟨hbs, hds⟩ := spares_of_sourceAll hq rest hrest
    refine ⟨.cons hb hbs, ?_⟩
    rw [Draft.placesOfList_append, enteredPlacesAmong, Draft.placesOfList_within_toList]
    exact List.append_subset.mpr ⟨List.subset_append_of_subset_left _ (List.map_subset _ hd),
      List.subset_append_of_subset_right _ hds⟩
end

end SourcingPlan
end EditorBlocks
