import EditorBlocks.Proofs.Json.Writable
import EditorBlocks.Session.Outcome
import Mathlib.Data.List.Forall2
/-! The stable form of results: which members an object has that shows a block or a result, and that
it tells them apart from all others. -/

namespace EditorBlocks

theorem object?_injective {es es' : Option (List (String × Value))}
    (h : es.map Value.object = es'.map Value.object) : es = es' :=
  Option.map_injective Value.object_injective h

namespace SourcedBlock

theorem nameValue_injective : Function.Injective nameValue := by
  intro name name' h
  cases name <;> cases name' <;> simp_all [nameValue]

/-- The objects that show a block. The name and the attributes are always there, the attributes as
an object even if they have been taken away; blocks inside are there if there are any, and debug data
if it is not null. There is no other member, and the blocks inside are shown in the same way. -/
inductive ShownBy : SourcedBlock → Value → Prop
  | mk {name : Option String} {attributes : Option (List (String × Value))}
      {inner : List SourcedBlock} {debug : Option (List (String × Value))}
      {members : List (String × Value)} {items : List Value}
      (hnames : (Entries.keys members).Nodup)
      (honly : Entries.keys members ⊆ ["name", "attributes", "innerBlocks", "debug"])
      (hname : Entries.find? "name" members = some (nameValue name))
      (hattributes : Entries.find? "attributes" members = some (.object (attributes.getD [])))
      (hinner : Entries.find? "innerBlocks" members =
        if inner.isEmpty then none else some (.list items))
      (hitems : List.Forall₂ ShownBy inner items)
      (hdebug : Entries.find? "debug" members = debug.map Value.object) :
      ShownBy (.mk name attributes inner debug) (.object members)

mutual
/-- The block with empty attributes in place of those that have been taken away, at every depth. -/
def filled : SourcedBlock → SourcedBlock
  | .mk name attributes inner debug =>
    .mk name (some (attributes.getD [])) (filledList inner) debug

def filledList : List SourcedBlock → List SourcedBlock
  | [] => []
  | b :: rest => filled b :: filledList rest
end

mutual
theorem shownBy_toValue : ∀ b : SourcedBlock, b.ShownBy b.toValue
  | .mk name attributes inner debug => by
    have hitems := shownBy_toValues inner
    rw [toValue]
    cases inner <;> cases debug <;>
      exact .mk (by simp [Entries.keys]) (by simp [Entries.keys]) (by simp [Entries.find?])
        (by simp [Entries.find?]) (by simp [Entries.find?]) hitems (by simp [Entries.find?])

theorem shownBy_toValues : ∀ bs : List SourcedBlock, List.Forall₂ ShownBy bs (toValues bs)
  | [] => .nil
  | b :: rest => .cons (shownBy_toValue b) (shownBy_toValues rest)
end

mutual
/-- An object shows one block only, whatever the order of its members. -/
theorem ShownBy.filled_eq : ∀ {b c : SourcedBlock} {v : Value}, b.ShownBy v → c.ShownBy v →
    b.filled = c.filled
  | .mk name attributes inner debug, c, v, hb, hc => by
    cases hb with
    | @mk _ _ _ _ members items _ _ hname hattributes hinner hitems hdebug =>
      generalize hv : Value.object members = v at hc
      cases hc with
      | @mk name' attributes' inner' debug' members' items' _ _ hname' hattributes' hinner' hitems'
          hdebug' =>
        obtain rfl := Value.object_injective hv
        obtain rfl := nameValue_injective (Option.some.inj (hname.symm.trans hname'))
        obtain rfl := object?_injective (hdebug.symm.trans hdebug')
        have hattrs : attributes.getD [] = attributes'.getD [] :=
          Value.object_injective (Option.some.inj (hattributes.symm.trans hattributes'))
        have hsame := hinner.symm.trans hinner'
        have hlists : filledList inner = filledList inner' := by
          cases inner with
          | nil =>
            cases inner' with
            | nil => rfl
            | cons => simp at hsame
          | cons b rest =>
            cases inner' with
            | nil => simp at hsame
            | cons =>
              simp only [List.isEmpty_cons, Bool.false_eq_true, ↓reduceIte, Option.some.injEq,
                Value.list.injEq] at hsame
              exact filledList_eq hitems (hsame ▸ hitems')
        rw [filled, filled, hattrs, hlists]

theorem filledList_eq : ∀ {bs cs : List SourcedBlock} {vs : List Value},
    List.Forall₂ ShownBy bs vs → List.Forall₂ ShownBy cs vs → filledList bs = filledList cs
  | [], cs, vs, hb, hc => by
    cases hb
    cases hc
    rfl
  | b :: rest, cs, vs, hb, hc => by
    obtain ⟨v, others, hfirst, hrest, rfl⟩ := List.forall₂_cons_left_iff.mp hb
    obtain ⟨c, cs, hfirst', hrest', rfl⟩ := List.forall₂_cons_right_iff.mp hc
    rw [filledList, filledList, hfirst.filled_eq hfirst', filledList_eq hrest hrest']
end

theorem isEmpty_filledList (bs : List SourcedBlock) : (filledList bs).isEmpty = bs.isEmpty := by
  cases bs <;> rfl

mutual
theorem toValue_filled : ∀ b : SourcedBlock, b.filled.toValue = b.toValue
  | .mk name attributes inner debug => by
    rw [filled, toValue, toValue, toValues_filledList inner, isEmpty_filledList, Option.getD_some]

theorem toValues_filledList : ∀ bs : List SourcedBlock, toValues (filledList bs) = toValues bs
  | [] => rfl
  | b :: rest => by
    rw [filledList, toValues, toValues, toValue_filled b, toValues_filledList rest]
end

end SourcedBlock

namespace ParseResult

/-- The objects that show a result. The blocks are always there, warnings if there are any, and debug
data if it is not null; there is no other member. -/
inductive ShownBy : ParseResult → Value → Prop
  | mk {r : ParseResult} {members : List (String × Value)} {items : List Value}
      (hnames : (Entries.keys members).Nodup)
      (honly : Entries.keys members ⊆ ["blocks", "warnings", "debug"])
      (hblocks : Entries.find? "blocks" members = some (.list items))
      (hitems : List.Forall₂ SourcedBlock.ShownBy r.blocks items)
      (hwarnings : Entries.find? "warnings" members =
        if r.warnings.isEmpty then none else some (.list (r.warnings.map .str)))
      (hdebug : Entries.find? "debug" members = r.debug.map Value.object) :
      ShownBy r (.object members)

/-- The result with empty attributes in place of those that have been taken away. -/
def filled (r : ParseResult) : ParseResult :=
  { r with blocks := SourcedBlock.filledList r.blocks }

theorem shownBy_toValue (r : ParseResult) : r.ShownBy r.toValue := by
  have hitems := SourcedBlock.shownBy_toValues r.blocks
  obtain ⟨blocks, warnings, debug⟩ := r
  cases warnings <;> cases debug <;>
    exact .mk (by simp [Entries.keys]) (by simp [Entries.keys]) (by simp [Entries.find?]) hitems
      (by simp [Entries.find?]) (by simp [Entries.find?])

/-- An object shows one result only, whatever the order of its members. -/
theorem ShownBy.filled_eq {r s : ParseResult} {v : Value} (hr : r.ShownBy v) (hs : s.ShownBy v) :
    r.filled = s.filled := by
  obtain ⟨-, -, hblocks, hitems, hwarnings, hdebug⟩ := hr
  rename_i members items
  generalize hv : Value.object members = v at hs
  obtain ⟨-, -, hblocks', hitems', hwarnings', hdebug'⟩ := hs
  obtain rfl := Value.object_injective hv
  have hsame := hblocks.symm.trans hblocks'
  simp only [Option.some.injEq, Value.list.injEq] at hsame
  have hdebugs : r.debug = s.debug := object?_injective (hdebug.symm.trans hdebug')
  have htexts : r.warnings = s.warnings := by
    have hstr : Function.Injective Value.str := fun _ _ h => Value.str.inj h
    have hlists := hwarnings.symm.trans hwarnings'
    cases hw : r.warnings <;> cases hw' : s.warnings <;>
      simp_all [List.map_inj_right]
  rw [filled, filled, SourcedBlock.filledList_eq hitems (hsame ▸ hitems'), hdebugs, htexts]

theorem toValue_filled (r : ParseResult) : r.filled.toValue = r.toValue := by
  rw [filled, toValue, SourcedBlock.toValues_filledList, toValue]

/-- A result is shown in one shape at every depth: attributes are an object, blocks inside and warnings
are there exactly if there are any, and debug data exactly if it is not null. The form loses nothing:
results of the same form have the same blocks in the same order, with the same attributes and debug
data, and the same warnings, where attributes that have been taken away count as empty ones. -/
theorem stable_form (r : ParseResult) : r.ShownBy r.toValue ∧
    ∀ s : ParseResult, r.toValue = s.toValue ↔ r.filled = s.filled := by
  refine ⟨r.shownBy_toValue, fun s => ⟨fun h => ?_, fun h => ?_⟩⟩
  · have hs : s.ShownBy r.toValue := h ▸ s.shownBy_toValue
    exact r.shownBy_toValue.filled_eq hs
  · calc r.toValue = r.filled.toValue := r.toValue_filled.symm
      _ = s.filled.toValue := congrArg toValue h
      _ = s.toValue := s.toValue_filled

end ParseResult
end EditorBlocks
