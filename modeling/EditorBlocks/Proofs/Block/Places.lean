import EditorBlocks.Block.Parsed
/-! Explicit attributes by places: a block is as it was when each place has what it had. -/

namespace EditorBlocks

/-- The attributes are those of blocks next to each other, of which the first has the given number,
and of the blocks inside them. -/
def PlacedAttrs.AreOf (attrs : PlacedAttrs) : Nat → List ParsedBlock → Prop
  | _, [] => True
  | number, b :: rest =>
    (fun place => attrs (number :: place)) = b.attrsAt ∧ AreOf attrs (number + 1) rest

/-- Blocks have their numbers by the blocks before them. -/
theorem PlacedAttrs.areOf_of_before {attrs : PlacedAttrs} {bs : List ParsedBlock}
    (before : List ParsedBlock) (h : ∀ n place,
      attrs (n :: place) = ((before ++ bs)[n]?.map fun b => b.attrsAt place).getD []) :
    attrs.AreOf before.length bs := by
  induction bs generalizing before with
  | nil => trivial
  | cons b rest ih =>
    have hlast : (before ++ b :: rest)[before.length]? = some b := by
      rw [List.getElem?_append_right (Nat.le_refl _), Nat.sub_self, List.getElem?_cons_zero]
    refine ⟨?_, ?_⟩
    · funext place
      rw [h, hlast]
      rfl
    · have hrest := ih (before ++ [b]) fun n place => by
        rw [h, List.append_assoc, List.singleton_append]
      rwa [List.length_append, List.length_singleton] at hrest

namespace ParsedBlock

theorem areOf_attrsAt (b : ParsedBlock) : b.attrsAt.AreOf 0 b.inner :=
  PlacedAttrs.areOf_of_before [] fun _ _ => rfl

theorem areOf_attrsAmong (bs : List ParsedBlock) : (attrsAmong bs).AreOf 0 bs :=
  PlacedAttrs.areOf_of_before [] fun _ _ => rfl

mutual
/-- A block with its own explicit attributes is the block. -/
theorem withAttrsAt_attrsAt : ∀ b : ParsedBlock, b.withAttrsAt b.attrsAt = b
  | mk name attrs html inner => by
    have hinner := withAttrsAmong_of_areOf inner (areOf_attrsAt (mk name attrs html inner))
    rw [withAttrsAt, hinner]
    rfl

theorem withAttrsAmong_of_areOf : ∀ (bs : List ParsedBlock) {attrs : PlacedAttrs} {number : Nat},
    attrs.AreOf number bs → withAttrsAmong attrs number bs = bs
  | [], _, _, _ => rfl
  | b :: rest, attrs, number, ⟨hb, hrest⟩ => by
    rw [withAttrsAmong, hb, withAttrsAt_attrsAt b, withAttrsAmong_of_areOf rest hrest]
end

mutual
/-- A block without explicit attributes, at any depth. -/
def bare : ParsedBlock → ParsedBlock
  | mk name _ html inner => mk name [] html (bareList inner)

def bareList : List ParsedBlock → List ParsedBlock
  | [] => []
  | b :: rest => bare b :: bareList rest
end

mutual
@[simp] theorem bare_withAttrsAt : ∀ (b : ParsedBlock) (attrs : PlacedAttrs),
    (b.withAttrsAt attrs).bare = b.bare
  | mk name _ html inner, attrs => by
    rw [withAttrsAt, bare, bare, bareList_withAttrsAmong inner]

theorem bareList_withAttrsAmong : ∀ (bs : List ParsedBlock) (attrs : PlacedAttrs) (number : Nat),
    bareList (withAttrsAmong attrs number bs) = bareList bs
  | [], _, _ => rfl
  | b :: rest, attrs, number => by
    rw [withAttrsAmong, bareList, bareList, bare_withAttrsAt b, bareList_withAttrsAmong rest]
end

end ParsedBlock
end EditorBlocks
