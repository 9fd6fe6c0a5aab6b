import EditorBlocks.Proofs.Attribute.Dumped
import EditorBlocks.Proofs.Session.Admission
import EditorBlocks.Proofs.Session.Redefined
/-! Registries that are built again from the definitions that debug data shows: they are shown in
the same way, and parses by them are the same. -/

namespace EditorBlocks

namespace AttributeDefinition

theorem withoutNullsItems_eq (items : List (String × AttributeDefinition)) :
    withoutNullsItems items = Entries.mapValues withoutNulls items := by
  induction items with
  | nil => rfl
  | cons item rest ih =>
    obtain ⟨name, d⟩ := item
    rw [withoutNullsItems, ih, withoutNullsItem]
    rfl

end AttributeDefinition

namespace BlockType
variable {t : BlockType}

/-- The definitions of a type as debug data shows them. -/
def dump (t : BlockType) : Value :=
  (Entries.find? "block_definition_attributes" (SourcingPlan.debugData (some t))).getD .null

theorem dump_eq (t : BlockType) : t.dump = AttributeDefinition.dumpItems t.attributes := rfl

theorem dump_withoutNulls (t : BlockType) :
    (t.redefined AttributeDefinition.withoutNulls).dump = t.dump := by
  rw [dump_eq, dump_eq, redefined, ← AttributeDefinition.withoutNullsItems_eq,
    AttributeDefinition.dumpItems_withoutNulls]

/-- What a type is shown as is read as the type again. -/
theorem check_dump (h : ∀ item ∈ t.attributes, item.2.IsPlain) {name : String}
    (hname : t.name = name) : check (.object [("attributes", t.dump), ("name", .str name)]) =
      .valid (t.redefined AttributeDefinition.withoutNulls) := by
  have hread : Checked.memberOr [] "attributes" checkAttributes
      [(.str "attributes", t.dump), (.str "name", .str name)] =
        .valid (t.redefined AttributeDefinition.withoutNulls).attributes := by
    have hattributes := AttributeDefinition.checkAttributes_dumpItems h
    rw [AttributeDefinition.withoutNullsItems_eq, ← dump_eq] at hattributes
    exact Checked.within_eq_valid.mpr hattributes
  subst hname
  exact Checked.seq_eq_valid.mpr ⟨_, _, rfl, hread, rfl⟩

end BlockType

namespace Registry
variable {r : Registry}

/-- Types are registered under their own names, each name once, and define plain data. -/
structure IsPlain (r : Registry) : Prop where
  names : (Entries.keys r.types).Nodup
  named : ∀ e ∈ r.types, e.2.name = e.1
  items : ∀ e ∈ r.types, ∀ item ∈ e.2.attributes, item.2.IsPlain

/-- The registry as data: each type under its name, with the definitions that debug data shows. -/
def dump (r : Registry) : Value :=
  .object (r.types.map fun e => (e.1, .object [("attributes", e.2.dump)]))

theorem dump_withoutNulls (r : Registry) :
    (r.redefined AttributeDefinition.withoutNulls).dump = r.dump := by
  rw [dump, dump, redefined, Entries.mapValues, List.map_map]
  simp only [Function.comp_def, BlockType.dump_withoutNulls]

end Registry
end EditorBlocks
