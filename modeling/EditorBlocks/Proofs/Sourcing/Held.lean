import EditorBlocks.Sourcing.Held
/-! Held values and the places of the explicit attributes in them: what a value depends on, and that
it is the same for the blocks around. -/

namespace EditorBlocks

namespace Held

mutual
/-- The places of the blocks whose explicit attributes are in the value. -/
def places : Held → List (List Nat)
  | own _ => []
  | explicit place _ => [place]
  | stored _ _ => []
  | list items => placesOfItems items
  | record members => placesOfMembers members

def placesOfItems : List Held → List (List Nat)
  | [] => []
  | h :: rest => places h ++ placesOfItems rest

def placesOfMember : String × Held → List (List Nat)
  | (_, h) => places h

def placesOfMembers : List (String × Held) → List (List Nat)
  | [] => []
  | m :: rest => placesOfMember m ++ placesOfMembers rest
end

theorem placesOfItems_eq (hs : List Held) : placesOfItems hs = hs.flatMap places := by
  induction hs with
  | nil => rfl
  | cons h rest ih => rw [placesOfItems, ih, List.flatMap_cons]

theorem placesOfMembers_eq (ms : List (String × Held)) :
    placesOfMembers ms = ms.flatMap fun m => m.2.places := by
  induction ms with
  | nil => rfl
  | cons m rest ih =>
    obtain ⟨name, h⟩ := m
    rw [placesOfMembers, placesOfMember, ih, List.flatMap_cons]

theorem placesOfItems_map_record {records : List (List (String × Held))}
    (h : ∀ r ∈ records, placesOfMembers r = []) : placesOfItems (records.map .record) = [] := by
  rw [placesOfItems_eq, List.flatMap_map]
  exact List.flatMap_eq_nil_iff.mpr h

theorem placesOfMembers_append (ms ns : List (String × Held)) :
    placesOfMembers (ms ++ ns) = placesOfMembers ms ++ placesOfMembers ns := by
  simp only [placesOfMembers_eq, List.flatMap_append]

section Settle
variable {s t : Shared}

mutual
/-- A value depends on what the metadata stores, and on the explicit attributes at its places. -/
theorem settle_congr (hst : ∀ post key, s.stored post key = t.stored post key) :
    ∀ h : Held, (∀ place ∈ h.places, s.attrs place = t.attrs place) → h.settle s = h.settle t
  | own v, _ => rfl
  | explicit place name, h => by
    rw [settle, settle, Shared.explicit, Shared.explicit, h place List.mem_cons_self]
  | stored post key, _ => hst post key
  | list items, h => by
    rw [settle, settle, settleItems_congr hst items h]
  | record members, h => by
    rw [settle, settle, settleMembers_congr hst members h]

theorem settleItems_congr (hst : ∀ post key, s.stored post key = t.stored post key) :
    ∀ hs : List Held, (∀ place ∈ placesOfItems hs, s.attrs place = t.attrs place) →
      settleItems s hs = settleItems t hs
  | [], _ => rfl
  | h :: rest, hp => by
    rw [placesOfItems, List.forall_mem_append] at hp
    rw [settleItems, settleItems, settle_congr hst h hp.1, settleItems_congr hst rest hp.2]

theorem settleMember_congr (hst : ∀ post key, s.stored post key = t.stored post key) :
    ∀ m : String × Held, (∀ place ∈ placesOfMember m, s.attrs place = t.attrs place) →
      settleMember s m = settleMember t m
  | (name, h), hp => by rw [settleMember, settleMember, settle_congr hst h hp]

theorem settleMembers_congr (hst : ∀ post key, s.stored post key = t.stored post key) :
    ∀ ms : List (String × Held), (∀ place ∈ placesOfMembers ms, s.attrs place = t.attrs place) →
      settleMembers s ms = settleMembers t ms
  | [], _ => rfl
  | m :: rest, hp => by
    rw [placesOfMembers, List.forall_mem_append] at hp
    rw [settleMembers, settleMembers, settleMember_congr hst m hp.1,
      settleMembers_congr hst rest hp.2]
end

end Settle

end Held

/-- What values refer to inside the block with a number. -/
def Shared.inside (s : Shared) (number : Nat) : Shared :=
  ⟨s.metadata, fun place => s.attrs (number :: place)⟩

namespace Held
variable (s : Shared) (number : Nat)

mutual
/-- For the block around, a value is what it is inside. -/
theorem settle_within : ∀ h : Held, (h.within number).settle s = h.settle (s.inside number)
  | own _ => rfl
  | explicit _ _ => rfl
  | stored _ _ => rfl
  | list items => by rw [within, settle, settle, settleItems_within items]
  | record members => by rw [within, settle, settle, settleMembers_within members]

theorem settleItems_within : ∀ hs : List Held,
    settleItems s (withinItems number hs) = settleItems (s.inside number) hs
  | [] => rfl
  | h :: rest => by
    rw [withinItems, settleItems, settleItems, settle_within h, settleItems_within rest]

theorem settleMember_within : ∀ m : String × Held,
    settleMember s (withinMember number m) = settleMember (s.inside number) m
  | (name, h) => by rw [withinMember, settleMember, settleMember, settle_within h]

theorem settleMembers_within : ∀ ms : List (String × Held),
    settleMembers s (withinMembers number ms) = settleMembers (s.inside number) ms
  | [] => rfl
  | m :: rest => by
    rw [withinMembers, settleMembers, settleMembers, settleMember_within m, settleMembers_within rest]
end

mutual
theorem places_within : ∀ h : Held, (h.within number).places = h.places.map (number :: ·)
  | own _ => rfl
  | explicit _ _ => rfl
  | stored _ _ => rfl
  | list items => by rw [within, places, places, placesOfItems_within items]
  | record members => by rw [within, places, places, placesOfMembers_within members]

theorem placesOfItems_within : ∀ hs : List Held,
    placesOfItems (withinItems number hs) = (placesOfItems hs).map (number :: ·)
  | [] => rfl
  | h :: rest => by
    rw [withinItems, placesOfItems, placesOfItems, places_within h, placesOfItems_within rest,
      List.map_append]

theorem placesOfMember_within : ∀ m : String × Held,
    placesOfMember (withinMember number m) = (placesOfMember m).map (number :: ·)
  | (name, h) => by rw [withinMember, placesOfMember, placesOfMember, places_within h]

theorem placesOfMembers_within : ∀ ms : List (String × Held),
    placesOfMembers (withinMembers number ms) = (placesOfMembers ms).map (number :: ·)
  | [] => rfl
  | m :: rest => by
    rw [withinMembers, placesOfMembers, placesOfMembers, placesOfMember_within m,
      placesOfMembers_within rest, List.map_append]
end

end Held

namespace Block
variable {α β γ : Type}

theorem mapValuesOfList_eq_map (f : α → β) (bs : List (Block α)) :
    mapValuesOfList f bs = bs.map (mapValues f) := by
  induction bs with
  | nil => rfl
  | cons b rest ih => rw [mapValuesOfList, ih, List.map_cons]

mutual
theorem mapValues_mapValues (g : β → γ) (f : α → β) :
    ∀ b : Block α, (b.mapValues f).mapValues g = b.mapValues (g ∘ f)
  | mk name attributes inner debug => by
    rw [mapValues, mapValues, mapValues, mapValuesOfList_mapValuesOfList g f inner, Option.map_map]
    congr 2
    funext es
    exact List.map_map

theorem mapValuesOfList_mapValuesOfList (g : β → γ) (f : α → β) :
    ∀ bs : List (Block α), mapValuesOfList g (mapValuesOfList f bs) = mapValuesOfList (g ∘ f) bs
  | [] => rfl
  | b :: rest => by
    rw [mapValuesOfList, mapValuesOfList, mapValuesOfList, mapValues_mapValues g f b,
      mapValuesOfList_mapValuesOfList g f rest]
end

end Block

theorem Draft.settle_within (s : Shared) (number : Nat) (d : Draft) :
    (d.within number).settle s = d.settle (s.inside number) := by
  have hheld : Held.settle s ∘ Held.within number = Held.settle (s.inside number) :=
    funext (Held.settle_within s number)
  rw [Draft.settle, Draft.within, Block.mapValues_mapValues, hheld, Draft.settle]

theorem Draft.settle_within_toList (s : Shared) (number : Nat) (d? : Option Draft) :
    (d?.map (Draft.within number)).toList.map (Draft.settle s) =
      d?.toList.map (Draft.settle (s.inside number)) := by
  rw [← Option.toList_map, ← Option.toList_map, Option.map_map]
  exact congrArg (fun f => (d?.map f).toList) (funext (Draft.settle_within s number))

end EditorBlocks
