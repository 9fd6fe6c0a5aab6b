import EditorBlocks.Block.Parsed
import EditorBlocks.Block.Sourced
/-! Forests of blocks: the lineages of their blocks, and what is left of them when blocks that are
not admitted go with all blocks inside. -/

namespace EditorBlocks

namespace ParsedBlock

mutual
/-- For each block from this one down, in document order, the blocks on the way to it. -/
def lineages : ParsedBlock → List (List ParsedBlock)
  | mk name attrs html inner =>
    [mk name attrs html inner] :: (lineagesOfList inner).map (mk name attrs html inner :: ·)

def lineagesOfList : List ParsedBlock → List (List ParsedBlock)
  | [] => []
  | b :: rest => lineages b ++ lineagesOfList rest
end

mutual
/-- A block without the blocks inside that are not admitted, if it is admitted itself. -/
def pruned (admits : ParsedBlock → Bool) : ParsedBlock → Option ParsedBlock
  | mk name attrs html inner =>
    if admits (mk name attrs html inner) then some (mk name attrs html (prunedList admits inner))
    else none

def prunedList (admits : ParsedBlock → Bool) : List ParsedBlock → List ParsedBlock
  | [] => []
  | b :: rest => (pruned admits b).toList ++ prunedList admits rest
end

mutual
/-- The blocks from this one down that are admitted with all blocks around them, in document
order. -/
def entered (admits : ParsedBlock → Bool) : ParsedBlock → List ParsedBlock
  | mk name attrs html inner =>
    if admits (mk name attrs html inner) then
      mk name attrs html inner :: enteredOfList admits inner
    else []

def enteredOfList (admits : ParsedBlock → Bool) : List ParsedBlock → List ParsedBlock
  | [] => []
  | b :: rest => entered admits b ++ enteredOfList admits rest
end

end ParsedBlock

namespace Block
variable {α : Type}

mutual
/-- For each block from this one down, in document order, the blocks on the way to it. -/
def lineages : Block α → List (List (Block α))
  | mk name attributes inner debug =>
    [mk name attributes inner debug] ::
      (lineagesOfList inner).map (mk name attributes inner debug :: ·)

def lineagesOfList : List (Block α) → List (List (Block α))
  | [] => []
  | b :: rest => lineages b ++ lineagesOfList rest
end

theorem lineagesOfList_append (bs cs : List (Block α)) :
    lineagesOfList (bs ++ cs) = lineagesOfList bs ++ lineagesOfList cs := by
  induction bs with
  | nil => rfl
  | cons b rest ih => simp only [List.cons_append, lineagesOfList, ih, List.append_assoc]

/-- What a block says of itself: its name and its attributes. -/
def label (b : Block α) : Option String × Option (List (String × α)) := (b.name, b.attributes)

end Block

namespace ParsedBlock

mutual
/-- A block with the attributes and the debug data that are told for it, at every depth. -/
def completed (attributes : ParsedBlock → List (String × Value))
    (debug : Option String → Option (List (String × Value))) : ParsedBlock → SourcedBlock
  | mk name attrs html inner =>
    .mk name (some (attributes (mk name attrs html []))) (completedList attributes debug inner)
      (debug name)

def completedList (attributes : ParsedBlock → List (String × Value))
    (debug : Option String → Option (List (String × Value))) : List ParsedBlock → List SourcedBlock
  | [] => []
  | b :: rest => completed attributes debug b :: completedList attributes debug rest
end

section Lineage
variable {admits : ParsedBlock → Bool} {attributes : ParsedBlock → List (String × Value)}
  {debug : Option String → Option (List (String × Value))}

/-- What a completed block says of itself. -/
def completedLabel (attributes : ParsedBlock → List (String × Value)) (b : ParsedBlock) :
    Option String × Option (List (String × Value)) :=
  (b.name, some (attributes (b.withInner [])))

theorem completedList_append (bs cs : List ParsedBlock) :
    completedList attributes debug (bs ++ cs) =
      completedList attributes debug bs ++ completedList attributes debug cs := by
  induction bs with
  | nil => rfl
  | cons b rest ih => simp only [List.cons_append, completedList, ih]

theorem head?_of_mem_lineages {b : ParsedBlock} {way : List ParsedBlock}
    (h : way ∈ lineages b) : way.head? = some b := by
  obtain ⟨name, attrs, html, inner⟩ := b
  rw [lineages, List.mem_cons, List.mem_map] at h
  rcases h with rfl | ⟨rest, -, rfl⟩ <;> rfl

/-- Leaving out blocks at the top leaves out the lineages that begin with them. -/
theorem lineagesOfList_filter (keep : ParsedBlock → Bool) (bs : List ParsedBlock) :
    lineagesOfList (bs.filter keep) =
      (lineagesOfList bs).filter fun way => way.head?.all keep := by
  induction bs with
  | nil => rfl
  | cons b rest ih =>
    have hhead : (lineages b).filter (fun way => way.head?.all keep) =
        if keep b then lineages b else [] := by
      split
      · rename_i hb
        exact List.filter_eq_self.mpr fun way h => by simp [head?_of_mem_lineages h, hb]
      · rename_i hb
        exact List.filter_eq_nil_iff.mpr fun way h => by simp [head?_of_mem_lineages h, hb]
    rw [lineagesOfList, List.filter_append, hhead, List.filter_cons, ← ih]
    split <;> rfl

/-- Of the lineages from a block down, those of admitted blocks go on from an admitted block. -/
theorem lineages_filter_all (admits : ParsedBlock → Bool) (b : ParsedBlock) :
    (lineages b).filter (·.all admits) =
      if admits b then [b] :: ((lineagesOfList b.inner).filter (·.all admits)).map (b :: ·)
      else [] := by
  obtain ⟨name, attrs, html, inner⟩ := b
  rw [lineages]
  split
  · rename_i ha
    have hall : (fun way : List ParsedBlock => way.all admits) ∘ (mk name attrs html inner :: ·) =
        fun way => way.all admits := by
      funext way
      simp [ha]
    rw [List.filter_cons_of_pos (by simp [ha]), List.filter_map, hall]
    rfl
  · rename_i ha
    simp [List.filter_eq_nil_iff, ha]

theorem ne_nil_of_mem_lineagesOfList : ∀ (bs : List ParsedBlock) {way : List ParsedBlock},
    way ∈ lineagesOfList bs → way ≠ []
  | [], _, h => by cases h
  | b :: rest, way, h => by
    rw [lineagesOfList, List.mem_append] at h
    rcases h with h | h
    · intro hnil
      have hhead := head?_of_mem_lineages h
      rw [hnil] at hhead
      cases hhead
    · exact ne_nil_of_mem_lineagesOfList rest h

/-- Lineages end alike further from their beginning. -/
theorem ends_map_cons (b : ParsedBlock) {ways : List (List ParsedBlock)}
    (h : ∀ way ∈ ways, way ≠ []) :
    (ways.map (b :: ·)).filterMap List.getLast? = ways.filterMap List.getLast? := by
  induction ways with
  | nil => rfl
  | cons way rest ih =>
    rw [List.forall_mem_cons] at h
    obtain ⟨hway, hrest⟩ := h
    cases hlast : way.getLast? with
    | none => exact absurd (List.getLast?_eq_none_iff.mp hlast) hway
    | some c =>
      have hcons : (b :: way).getLast? = some c := by
        rw [List.getLast?_cons, hlast, Option.getD_some]
      rw [List.map_cons, List.filterMap_cons_some hcons, List.filterMap_cons_some hlast, ih hrest]

mutual
/-- The blocks that are entered are those at the ends of lineages of admitted blocks. -/
theorem ends_lineages (admits : ParsedBlock → Bool) : ∀ b : ParsedBlock,
    ((lineages b).filter (·.all admits)).filterMap List.getLast? = entered admits b
  | mk name attrs html inner => by
    rw [lineages_filter_all, entered]
    split
    · rw [List.filterMap_cons_some List.getLast?_singleton, ends_map_cons]
      · exact congrArg _ (ends_lineagesOfList admits inner)
      intro way hway
      exact ne_nil_of_mem_lineagesOfList _ (List.mem_filter.mp hway).1
    · rfl

theorem ends_lineagesOfList (admits : ParsedBlock → Bool) : ∀ bs : List ParsedBlock,
    ((lineagesOfList bs).filter (·.all admits)).filterMap List.getLast? = enteredOfList admits bs
  | [] => rfl
  | b :: rest => by
    rw [lineagesOfList, List.filter_append, List.filterMap_append, ends_lineages admits b,
      ends_lineagesOfList admits rest, enteredOfList]
end

mutual
/-- A block is left when it and all blocks on the way to it are admitted. -/
theorem labels_pruned (admits : ParsedBlock → Bool) : ∀ b : ParsedBlock,
    (Block.lineagesOfList (completedList attributes debug (pruned admits b).toList)).map
        (List.map Block.label) =
      ((lineages b).filter (·.all admits)).map (List.map (completedLabel attributes))
  | mk name attrs html inner => by
    have hinner := labels_prunedList admits inner
    have hbelow : ∀ (c : SourcedBlock) (ways : List (List SourcedBlock)),
        (ways.map (c :: ·)).map (List.map Block.label) =
          (ways.map (List.map Block.label)).map (c.label :: ·) := by
      intro c ways
      simp [List.map_map, Function.comp_def]
    rw [pruned, lineages_filter_all]
    split
    · rw [Option.toList_some, completedList, completedList, completed, Block.lineagesOfList,
        Block.lineages, Block.lineagesOfList, List.append_nil, List.map_cons, hbelow, hinner]
      simp [List.map_map, Function.comp_def, completedLabel, Block.label, Block.name,
        Block.attributes, ParsedBlock.name, ParsedBlock.inner, withInner]
    · rfl

theorem labels_prunedList (admits : ParsedBlock → Bool) : ∀ bs : List ParsedBlock,
    (Block.lineagesOfList (completedList attributes debug (prunedList admits bs))).map
        (List.map Block.label) =
      ((lineagesOfList bs).filter (·.all admits)).map (List.map (completedLabel attributes))
  | [] => rfl
  | b :: rest => by
    rw [prunedList, completedList_append, Block.lineagesOfList_append, List.map_append,
      labels_pruned admits b, labels_prunedList admits rest, lineagesOfList, List.filter_append,
      List.map_append]
end

end Lineage

end ParsedBlock
end EditorBlocks
