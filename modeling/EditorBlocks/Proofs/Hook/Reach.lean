import EditorBlocks.Hook.Rule
import EditorBlocks.Proofs.Sourcing.Held
/-! What a processor can get at: the explicit attributes of its block, and those that are in the values of
the sourced block that it is given. -/

namespace EditorBlocks

namespace Held

/-- A change in place changes the explicit attributes that are in the value, and no others. -/
theorem append_attrs {s : Shared} {place : List Nat} (item : Value) :
    ∀ {h : Held}, place ∉ h.places → (h.append s item).2.attrs place = s.attrs place
  | explicit held name, hplace => by
    have hne : place ≠ held := fun he => hplace (he ▸ List.mem_cons_self)
    rw [append]
    split
    · exact if_neg hne
    · rfl
  | stored post key, _ => by
    rw [append]
    split <;> rfl
  | own v, _ => by cases v <;> rfl
  | list items, _ => rfl
  | record members, _ => rfl

theorem append_places (s : Shared) (item : Value) : ∀ h : Held,
    (h.append s item).1.places = h.places
  | explicit held name => by
    rw [append]
    split <;> rfl
  | stored post key => by
    rw [append]
    split <;> rfl
  | own v => by cases v <;> rfl
  | list items => by
    rw [append, places, places, placesOfItems_eq, placesOfItems_eq, List.flatMap_append]
    exact List.append_nil _
  | record members => rfl

end Held

namespace Draft

mutual
/-- The places of the explicit attributes that are in the values of a block, at any depth. -/
def places : Draft → List (List Nat)
  | .mk _ attributes inner _ => Held.placesOfMembers (attributes.getD []) ++ placesOfList inner

def placesOfList : List Draft → List (List Nat)
  | [] => []
  | d :: rest => places d ++ placesOfList rest
end

/-- Where explicit attributes can be changed in place: those of the block that is sourced, and those
that are in its values. -/
def reach (d : Draft) : List (List Nat) := [] :: d.places

theorem placesOfList_eq (ds : List Draft) : placesOfList ds = ds.flatMap places := by
  induction ds with
  | nil => rfl
  | cons d rest ih => rw [placesOfList, ih, List.flatMap_cons]

theorem places_eq (d : Draft) : d.places =
    Held.placesOfMembers (d.attributes.getD []) ++ placesOfList d.inner := by
  cases d
  rfl

theorem attributes_subset_reach (d : Draft) :
    Held.placesOfMembers (d.attributes.getD []) ⊆ d.reach := by
  rw [reach, places_eq]
  exact List.subset_cons_of_subset _ (List.subset_append_left _ _)

theorem inner_subset_reach (d : Draft) : placesOfList d.inner ⊆ d.reach := by
  rw [reach, places_eq]
  exact List.subset_cons_of_subset _ (List.subset_append_right _ _)

theorem mem_reach {d : Draft} {attributes : List (String × Held)} {m : String × Held}
    {place : List Nat} (hd : d.attributes = some attributes) (hm : m ∈ attributes)
    (hplace : place ∈ m.2.places) : place ∈ d.reach := by
  apply d.attributes_subset_reach
  rw [hd, Option.getD_some, Held.placesOfMembers_eq]
  exact List.mem_flatMap.mpr ⟨m, hm, hplace⟩

theorem reach_subset {d : Draft} {places : List (List Nat)} (hown : [] ∈ places)
    (ha : Held.placesOfMembers (d.attributes.getD []) ⊆ places)
    (hi : placesOfList d.inner ⊆ places) : d.reach ⊆ places := by
  rw [reach, places_eq]
  exact List.cons_subset.mpr ⟨hown, List.append_subset.mpr ⟨ha, hi⟩⟩

theorem reach_withInner {d : Draft} {inner : List Draft} (h : inner ⊆ d.inner) :
    Draft.reach (d.withInner inner) ⊆ d.reach := by
  have hinner : placesOfList inner ⊆ d.reach := by
    refine List.Subset.trans ?_ d.inner_subset_reach
    rw [placesOfList_eq, placesOfList_eq]
    intro place hplace
    obtain ⟨c, hc, hplace⟩ := List.mem_flatMap.mp hplace
    exact List.mem_flatMap.mpr ⟨c, h hc, hplace⟩
  obtain ⟨name, attributes, below, debug⟩ := d
  exact reach_subset List.mem_cons_self
    (attributes_subset_reach (.mk name attributes below debug)) hinner

theorem reach_withAttributes {d : Draft} {attributes : Option (List (String × Held))}
    (h : Held.placesOfMembers (attributes.getD []) ⊆ d.reach) :
    Draft.reach (d.withAttributes attributes) ⊆ d.reach := by
  obtain ⟨name, before, inner, debug⟩ := d
  exact reach_subset List.mem_cons_self h (inner_subset_reach (.mk name before inner debug))

end Draft

/-- A computation changes explicit attributes in reach and no others, and makes a block that has no
others in reach. -/
def InReach (reach : List (List Nat)) (x : ExceptT Fault (StateM Changeable) Draft) : Prop :=
  ∀ s, (∀ place ∉ reach, (x.run.run s).2.attrs place = s.attrs place) ∧
    ∀ d, (x.run.run s).1 = .ok d → d.reach ⊆ reach

/-- A processor knows explicit attributes only as those of its block and by the values of the sourced
block that it is given. -/
def Processor.StaysInReach (q : Processor) : Prop :=
  ∀ sourced name postId block, InReach sourced.reach (q sourced name postId block)

theorem inReach_pure {reach : List (List Nat)} {d : Draft} (h : d.reach ⊆ reach) :
    InReach reach (pure d) := by
  refine fun s => ⟨fun _ _ => rfl, fun e he => ?_⟩
  cases he
  exact h

theorem inReach_throw (reach : List (List Nat)) (fault : Fault) : InReach reach (throw fault) :=
  fun _ => ⟨fun _ _ => rfl, fun _ he => by cases he⟩

namespace ProcessorRule
variable {d : Draft} {attributes : List (String × Held)}

/-- A step that asks for the attributes of a block goes on with them or fails. -/
theorem inReach_attributesOr {fault : Fault} {f : List (String × Held) → Step Draft}
    (h : ∀ attributes, d.attributes = some attributes → InReach d.reach (f attributes)) :
    InReach d.reach (attributesOr fault d >>= f) := by
  unfold attributesOr
  cases hd : d.attributes with
  | none => exact inReach_throw _ fault
  | some attributes => exact h attributes hd

/-- Attributes with values of the block, and values of their own, bring nothing into reach. -/
theorem reach_of_members (hd : d.attributes = some attributes) {others : List (String × Held)}
    (h : ∀ m ∈ others, m ∈ attributes ∨ m.2.places ⊆ d.reach) :
    Draft.reach (d.withAttributes (some others)) ⊆ d.reach := by
  apply Draft.reach_withAttributes
  rw [Option.getD_some, Held.placesOfMembers_eq]
  intro place hplace
  obtain ⟨m, hm, hplace⟩ := List.mem_flatMap.mp hplace
  rcases h m hm with hm | hm
  · exact Draft.mem_reach hd hm hplace
  · exact hm hplace

theorem inReach_put (key : String) (value : Value) (d : Draft) :
    InReach d.reach (put key value d) := by
  refine inReach_attributesOr fun attributes hd => inReach_pure (reach_of_members hd ?_)
  intro m hm
  rcases Entries.mem_of_mem_put hm with rfl | hm
  · exact .inr (List.nil_subset _)
  · exact .inl hm

theorem inReach_appendTo (key : String) (item : Value) (d : Draft) :
    InReach d.reach (appendTo key item d) := by
  refine inReach_attributesOr fun attributes hd => ?_
  cases hfound : Entries.find? key attributes with
  | none => exact inReach_pure (List.Subset.refl _)
  | some held =>
    have hheld : held.places ⊆ d.reach := fun _ =>
      Draft.mem_reach hd (Entries.mem_of_find? hfound)
    refine fun s => ⟨fun place hplace => ?_, fun e he => ?_⟩
    · exact Held.append_attrs item fun h => hplace (hheld h)
    · cases he
      apply reach_of_members hd
      intro m hm
      rcases Entries.mem_of_mem_put hm with rfl | hm
      · exact .inr ((Held.append_places s.toShared item held).symm ▸ hheld)
      · exact .inl hm

/-- No ready-made processor gets at explicit attributes in another way, also if it changes values in
place. -/
theorem toProcessor_staysInReach (rule : ProcessorRule) : rule.toProcessor.StaysInReach := by
  intro d name postId block
  change InReach d.reach (apply d name postId block rule)
  induction rule with
  | assign key value => exact inReach_put key value d
  | setDefault key value =>
    refine inReach_attributesOr fun attributes _ => ?_
    split
    · exact inReach_pure (List.Subset.refl _)
    · exact inReach_put key value d
  | append key item => exact inReach_appendTo key item d
  | remove key =>
    refine inReach_attributesOr fun attributes hd => inReach_pure (reach_of_members hd ?_)
    exact fun m hm => .inl (List.mem_filter.mp hm).1
  | rename newName =>
    refine inReach_attributesOr fun attributes hd =>
      inReach_pure (Draft.reach_subset List.mem_cons_self ?_ (List.nil_subset _))
    have hattributes := d.attributes_subset_reach
    rwa [hd] at hattributes
  | clear => exact inReach_pure (Draft.reach_withAttributes (List.nil_subset _))
  | dropInner => exact inReach_pure (Draft.reach_withInner (List.nil_subset _))
  | reverseInner => exact inReach_pure (Draft.reach_withInner fun _ => List.mem_reverse.mp)
  | context => exact inReach_put _ _ d
  | only wanted rule ih =>
    rw [apply]
    split
    · exact ih
    · exact inReach_pure (List.Subset.refl _)
  | fail fault => exact inReach_throw _ fault

end ProcessorRule
end EditorBlocks
