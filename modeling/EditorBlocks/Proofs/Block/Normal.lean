import EditorBlocks.Proofs.Input.Loading
/-! Block data in normal form: what it is, that data is brought to it by reading and writing, and that
what has been written is read back as it was. -/

namespace EditorBlocks

/-- A relation that is a function on each element of a list is that function on the list. -/
theorem forall₂_iff_map {α β γ : Type} {R : α → β → Prop} {f : γ → β} {as : List α} {cs : List γ}
    (h : List.Forall₂ (fun a c => ∀ b, R a b ↔ b = f c) as cs) (bs : List β) :
    List.Forall₂ R as bs ↔ bs = cs.map f := by
  induction h generalizing bs with
  | nil => exact List.forall₂_nil_left_iff
  | cons h _ ih => simp [List.forall₂_cons_left_iff, h, ih]

namespace ParsedBlock

/-- Explicit attributes in normal form: null, an empty list and none at all are an empty object. -/
def normalAttrs : Option Value → Value
  | none | some .null | some (.list []) => .object []
  | some v => v

/-- Data of a block, and that data in normal form: every member that has a meaning is there under its
outer name, and nothing else is. -/
inductive Normalizes : Value → Value → Prop
  | block {es : List (Value × Value)} {items normal : List Value}
      (hitems : (given? "innerBlocks" "inner_blocks" es).getD (.list []) = .list items)
      (hnormal : List.Forall₂ Normalizes items normal) :
      Normalizes (.map es) (.object [
        ("blockName", (given? "blockName" "name" es).getD .null),
        ("attrs", normalAttrs (Checked.memberOf? "attrs" es)),
        ("innerHTML", (given? "innerHTML" "inner_html" es).getD (.str "")),
        ("innerBlocks", .list normal)])

/-! ### What has been written is read back -/

theorem optional_text_name (name : Option String) :
    Checked.optional Checked.text ((name.map Value.str).getD .null) = .valid name := by
  cases name <;> rfl

theorem checkAttrs_object (attrs : List (String × Value)) :
    checkAttrs (.object attrs) = .valid attrs :=
  Checked.entries_members attrs

mutual
/-- The data of a block is read as that block. -/
theorem check_toValue : ∀ b : ParsedBlock, check b.toValue = .valid b
  | mk name attrs html inner => by
    refine check_eq_valid.mpr ⟨?_, ?_, rfl, ?_⟩
    · exact Checked.within_eq_valid.mpr (optional_text_name name)
    · exact Checked.within_eq_valid.mpr (checkAttrs_object attrs)
    · exact Checked.within_eq_valid.mpr (checkFrom_eq_valid.mpr (check_toValues inner))

theorem check_toValues : ∀ bs : List ParsedBlock,
    List.Forall₂ (fun v b => check v = .valid b) (toValues bs) bs
  | [] => .nil
  | b :: rest => .cons (check_toValue b) (check_toValues rest)
end

/-- The data of blocks is accepted, and read as those blocks. -/
theorem listOfData_toValues (bs : List ParsedBlock) :
    listOfData (.list (toValues bs)) = .ok bs :=
  checkAll_eq_ok.mpr (check_toValues bs)

/-- Blocks with the same data are the same. -/
theorem toValues_injective : Function.Injective toValues := by
  intro bs cs h
  have hread := listOfData_toValues bs
  rw [h, listOfData_toValues cs] at hread
  exact (Except.ok.inj hread).symm

/-! ### What is read is written in normal form -/

section Written
variable {es : List (Value × Value)}

theorem name_of_optional_text {v : Value} {name : Option String}
    (h : Checked.optional Checked.text v = .valid name) : v = (name.map Value.str).getD .null := by
  unfold Checked.optional at h
  split at h
  · cases h
    rfl
  · obtain ⟨s, hs, rfl⟩ := Checked.map_eq_valid.mp h
    exact Checked.text_eq_valid.mp hs

theorem written_name {name : Option String}
    (h : memberOr none "blockName" "name" (Checked.optional Checked.text) es = .valid name) :
    (given? "blockName" "name" es).getD .null = (name.map Value.str).getD .null := by
  rcases memberOr_eq_valid.mp h with ⟨hnone, rfl⟩ | ⟨v, hv, hname⟩
  · rw [hnone]
    rfl
  · rw [hv]
    exact name_of_optional_text hname

theorem written_html {html : String}
    (h : memberOr "" "innerHTML" "inner_html" Checked.text es = .valid html) :
    (given? "innerHTML" "inner_html" es).getD (.str "") = .str html := by
  rcases memberOr_eq_valid.mp h with ⟨hnone, rfl⟩ | ⟨v, hv, hhtml⟩
  · rw [hnone]
    rfl
  · rw [hv]
    exact Checked.text_eq_valid.mp hhtml

theorem normalAttrs_of_check {v : Value} {attrs : List (String × Value)}
    (h : checkAttrs v = .valid attrs) : normalAttrs (some v) = .object attrs := by
  unfold checkAttrs at h
  split at h
  · cases h
    rfl
  · cases h
    rfl
  · obtain rfl := Checked.eq_object_of_mapping h
    rfl

theorem written_attrs {attrs : List (String × Value)}
    (h : memberOr [] "attrs" "attrs" checkAttrs es = .valid attrs) :
    normalAttrs (Checked.memberOf? "attrs" es) = .object attrs := by
  have hgiven : given? "attrs" "attrs" es = Checked.memberOf? "attrs" es := Option.or_self
  rw [← hgiven]
  rcases memberOr_eq_valid.mp h with ⟨hnone, rfl⟩ | ⟨v, hv, hattrs⟩
  · rw [hnone]
    rfl
  · rw [hv]
    exact normalAttrs_of_check hattrs

/-- The normal form of data that is read as a block is the data of that block, and nothing else. -/
theorem normalizes_iff {v normal : Value} {b : ParsedBlock} (h : check v = .valid b) :
    Normalizes v normal ↔ normal = b.toValue := by
  refine check_induction (P := fun v b => ∀ normal, Normalizes v normal ↔ normal = b.toValue) ?_
    v b h normal
  intro es items name attrs html inner hname hattrs hhtml hitems hinner normal
  have hinside : ∀ normal, List.Forall₂ Normalizes items normal ↔ normal = toValues inner := by
    rw [toValues_eq_map]
    exact forall₂_iff_map hinner
  rw [toValue, ← written_name hname, ← written_attrs hattrs, ← written_html hhtml]
  constructor
  · rintro ⟨hitems', hnormal⟩
    cases hitems.symm.trans hitems'
    rw [(hinside _).mp hnormal]
  · rintro rfl
    exact .block hitems ((hinside _).mpr rfl)

theorem normalizes_iff_of_checkAll {vs normal : List Value} {bs : List ParsedBlock}
    (h : checkAll vs = .ok bs) : List.Forall₂ Normalizes vs normal ↔ normal = toValues bs := by
  rw [toValues_eq_map]
  exact forall₂_iff_map ((checkAll_eq_ok.mp h).imp fun _ _ hb _ => normalizes_iff hb) normal

end Written

end ParsedBlock
end EditorBlocks
