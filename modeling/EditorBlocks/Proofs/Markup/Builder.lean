import EditorBlocks.Markup.Builder
import EditorBlocks.Proofs.Markup.Sketch
import Mathlib
/-! What the steps of tree construction keep: the body stays where it is, below all later elements
on the stack, and it is no formatting element. -/

open Std.Do
set_option mvcgen.warning false

namespace EditorBlocks.Markup

/-- The sketch has a body. Formatting elements are later nodes, and so are the open elements that
were opened after a later one. -/
structure Builder.HasBody (b : Builder) : Prop where
  sketch : b.sketch.HasBody
  formatting : ∀ {i}, some i ∈ b.formatting → 3 < i
  stack : b.stack.Pairwise fun i j => i ≤ 3 → j ≤ 3

@[grind =] theorem Builder.hasBody_iff {b : Builder} : b.HasBody ↔ b.sketch.HasBody ∧
    (∀ i, some i ∈ b.formatting → 3 < i) ∧ b.stack.Pairwise fun i j => i ≤ 3 → j ≤ 3 :=
  ⟨fun h => ⟨h.sketch, fun _ => h.formatting, h.stack⟩, fun ⟨hs, hf, ht⟩ => ⟨hs, hf _, ht⟩⟩

/-- The body is there. -/
abbrev Bodied : Assertion (.arg Builder .pure) := fun b => ⌜b.HasBody⌝

section Rules
variable {α β : Type} {x : Build α} {y : Build β}

theorem bodied_pure (a : α) : ⦃Bodied⦄ (pure a : Build α) ⦃⇓ _ => Bodied⦄ := fun _ h => h

theorem bodied_get_bind {f : Builder → Build α} (hf : ∀ b, ⦃Bodied⦄ f b ⦃⇓ _ => Bodied⦄) :
    ⦃Bodied⦄ (get >>= f) ⦃⇓ _ => Bodied⦄ :=
  fun b h => hf b b h

theorem bodied_bind {P : α → Prop} {f : α → Build β} (hx : ⦃Bodied⦄ x ⦃⇓ a b => ⌜b.HasBody ∧ P a⌝⦄)
    (hf : ∀ a, P a → ⦃Bodied⦄ f a ⦃⇓ _ => Bodied⦄) : ⦃Bodied⦄ (x >>= f) ⦃⇓ _ => Bodied⦄ := by
  intro b h
  obtain ⟨hbody, ha⟩ := hx b h
  exact hf _ ha _ hbody

theorem bodied_seq (hx : ⦃Bodied⦄ x ⦃⇓ _ => Bodied⦄) (hy : ⦃Bodied⦄ y ⦃⇓ _ => Bodied⦄) :
    ⦃Bodied⦄ (do let _ ← x; y) ⦃⇓ _ => Bodied⦄ := by
  mvcgen [hx, hy]

theorem bodied_ite {c : Prop} [Decidable c] {x y : Build α} (hx : ⦃Bodied⦄ x ⦃⇓ _ => Bodied⦄)
    (hy : ⦃Bodied⦄ y ⦃⇓ _ => Bodied⦄) : ⦃Bodied⦄ (if c then x else y) ⦃⇓ _ => Bodied⦄ := by
  split
  · exact hx
  · exact hy

end Rules

section Steps
variable {b : Builder} {sketch : Sketch} {stack : List Nat}

theorem Builder.HasBody.withSketch (h : b.HasBody) (hs : b.sketch.Extends sketch) :
    ({ b with sketch := sketch }).HasBody :=
  ⟨h.sketch.of_extends hs, h.formatting, h.stack⟩

theorem Builder.HasBody.withStack (h : b.HasBody) (hs : stack.Sublist b.stack) :
    ({ b with stack := stack }).HasBody :=
  ⟨h.sketch, h.formatting, h.stack.sublist hs⟩

theorem Builder.HasBody.withFormatting {formatting : List (Option Nat)} (h : b.HasBody)
    (hf : ∀ {i}, some i ∈ formatting → some i ∈ b.formatting ∨ 3 < i) :
    ({ b with formatting := formatting }).HasBody :=
  ⟨h.sketch, fun hi => (hf hi).elim h.formatting id, h.stack⟩

theorem Builder.HasBody.opened {i : Nat} (h : b.HasBody) (hi : 3 < i) :
    ({ b with stack := i :: b.stack }).HasBody :=
  ⟨h.sketch, h.formatting, List.pairwise_cons.mpr ⟨fun _ _ hle => absurd hi (by omega), h.stack⟩⟩

@[spec] theorem modify_bodied (f : Builder → Builder) (hf : ∀ b, b.HasBody → (f b).HasBody) :
    ⦃Bodied⦄ (modify f : Build PUnit) ⦃⇓ _ => Bodied⦄ := by
  intro b h
  exact hf b h

@[spec] theorem withSketch_bodied (f : Sketch → Sketch)
    (hf : ∀ s : Sketch, s.HasBody → s.Extends (f s)) :
    ⦃Bodied⦄ withSketch f ⦃⇓ _ => Bodied⦄ :=
  modify_bodied _ fun b h => h.withSketch (hf b.sketch h.sketch)

@[spec] theorem setMode_bodied (mode : Mode) : ⦃Bodied⦄ setMode mode ⦃⇓ _ => Bodied⦄ :=
  modify_bodied _ fun _ h => ⟨h.sketch, h.formatting, h.stack⟩

@[spec] theorem setFostering_bodied (on : Bool) : ⦃Bodied⦄ setFostering on ⦃⇓ _ => Bodied⦄ :=
  modify_bodied _ fun _ h => ⟨h.sketch, h.formatting, h.stack⟩

@[spec] theorem popOpen_bodied : ⦃Bodied⦄ popOpen ⦃⇓ _ => Bodied⦄ :=
  modify_bodied _ fun _ h => h.withStack (List.drop_sublist 1 _)

@[spec] theorem popThrough_bodied (wanted : Builder → Nat → Bool) :
    ⦃Bodied⦄ popThrough wanted ⦃⇓ _ => Bodied⦄ :=
  modify_bodied _ fun _ h => h.withStack ((List.drop_sublist 1 _).trans (List.dropWhile_sublist _))

@[spec] theorem popThroughName_bodied (name : String) :
    ⦃Bodied⦄ popThroughName name ⦃⇓ _ => Bodied⦄ :=
  popThrough_bodied _

@[spec] theorem popBackTo_bodied (names : List String) :
    ⦃Bodied⦄ popBackTo names ⦃⇓ _ => Bodied⦄ :=
  modify_bodied _ fun _ h => h.withStack (List.dropWhile_sublist _)

@[spec] theorem closeImplied_bodied (kept : String) :
    ⦃Bodied⦄ closeImplied kept ⦃⇓ _ => Bodied⦄ :=
  modify_bodied _ fun _ h => h.withStack (List.dropWhile_sublist _)

@[spec] theorem newElement_bodied (tag : Tag) :
    ⦃Bodied⦄ newElement tag ⦃⇓ i b => ⌜b.HasBody ∧ 3 < i⌝⦄ := by
  mvcgen [newElement]
  rename_i b h
  exact ⟨h.withSketch (Sketch.extends_add b.sketch _), h.sketch.size⟩

@[spec] theorem insertElement_bodied (tag : Tag) :
    ⦃Bodied⦄ insertElement tag ⦃⇓ i b => ⌜b.HasBody ∧ 3 < i⌝⦄ := by
  mvcgen [insertElement]
  all_goals grind [Builder.HasBody.opened, Sketch.extends_append, Sketch.extends_insertBefore]

@[spec] theorem insertHtml_bodied (name : String) (attributes : List (String × String)) :
    ⦃Bodied⦄ insertHtml name attributes ⦃⇓ _ => Bodied⦄ := by
  mvcgen [insertHtml]
  all_goals grind

@[spec] theorem insertEmpty_bodied (name : String) (attributes : List (String × String)) :
    ⦃Bodied⦄ insertEmpty name attributes ⦃⇓ _ => Bodied⦄ := by
  mvcgen [insertEmpty]

@[spec] theorem insertText_bodied (data : List Char) :
    ⦃Bodied⦄ insertText data ⦃⇓ _ => Bodied⦄ := by
  mvcgen [insertText]
  all_goals grind [Sketch.extends_appendText, Sketch.extends_insertTextBefore, Sketch.HasBody.size]

@[spec] theorem insertComment_bodied (data : String) (parent : Nat) :
    ⦃Bodied⦄ insertComment data parent ⦃⇓ _ => Bodied⦄ :=
  withSketch_bodied _ fun s h => (s.extends_add _).trans (Sketch.extends_append h.size)

@[spec] theorem clearFormatting_bodied : ⦃Bodied⦄ clearFormatting ⦃⇓ _ => Bodied⦄ :=
  modify_bodied _ fun _ h => h.withFormatting fun hi =>
    .inl ((List.dropWhile_sublist _).mem (List.mem_of_mem_drop hi))

@[spec] theorem addMarker_bodied : ⦃Bodied⦄ addMarker ⦃⇓ _ => Bodied⦄ :=
  modify_bodied _ fun _ h => h.withFormatting fun hi => by simp_all

@[spec] theorem reopen_bodied (old : List Nat) : ⦃Bodied⦄ reopen old ⦃⇓ _ => Bodied⦄ := by
  induction old with
  | nil => mvcgen [reopen]
  | cons i rest ih =>
    mvcgen [reopen, ih]
    rename_i copy b h _
    exact h.1.withFormatting fun hi => by grind

@[spec] theorem reconstructFormatting_bodied :
    ⦃Bodied⦄ reconstructFormatting ⦃⇓ _ => Bodied⦄ := by
  mvcgen [reconstructFormatting]

@[spec] theorem addFormatting_bodied (name : String) (attributes : List (String × String)) :
    ⦃Bodied⦄ addFormatting name attributes ⦃⇓ _ => Bodied⦄ := by
  mvcgen [addFormatting]
  rename_i i b h _
  exact h.1.withFormatting fun hi => by grind

@[spec] theorem removeFormatting_bodied (i : Nat) :
    ⦃Bodied⦄ removeFormatting i ⦃⇓ _ => Bodied⦄ :=
  modify_bodied _ fun _ h => h.withFormatting fun hj => .inl (List.mem_of_mem_erase hj)

@[spec] theorem removeOpen_bodied (i : Nat) : ⦃Bodied⦄ removeOpen i ⦃⇓ _ => Bodied⦄ :=
  modify_bodied _ fun _ h => h.withStack List.erase_sublist

theorem Builder.HasBody.substituted {old new : Nat} (h : b.HasBody) (ho : 3 < old) (hn : 3 < new) :
    ({ b with
      formatting := substitute (some old) (some new) b.formatting
      stack := substitute old new b.stack }).HasBody where
  sketch := h.sketch
  formatting := by
    intro i hi
    obtain ⟨entry, hentry, hsame⟩ := List.mem_map.mp hi
    split at hsame
    · cases hsame
      exact hn
    · rw [hsame] at hentry
      exact h.formatting hentry
  stack := by
    have hlow : ∀ i, (if i == old then new else i) ≤ 3 ↔ i ≤ 3 := by
      intro i
      by_cases hi : i = old
      · simp [hi]
        omega
      · simp [hi]
    rw [substitute, List.pairwise_map]
    simpa only [hlow] using h.stack

@[spec] theorem moveOut_bodied (element block steps : Nat) (outer : List Nat) (last mark : Nat)
    (hlast : 3 < last) :
    ⦃Bodied⦄ moveOut element block steps outer last mark ⦃⇓ r b => ⌜b.HasBody ∧ 3 < r.1⌝⦄ := by
  induction steps generalizing outer last mark with
  | zero => mvcgen [moveOut]
  | succ steps ih =>
    cases outer with
    | nil => mvcgen [moveOut]
    | cons node outer =>
      mvcgen [moveOut, ih]
      all_goals grind [Builder.HasBody.substituted, Builder.HasBody.formatting,
        Sketch.extends_append]

theorem mem_moveEntry {old new entry : Option Nat} {position : Nat} {xs : List (Option Nat)}
    (h : entry ∈ moveEntry old new position xs) : entry = new ∨ entry ∈ xs := by
  rw [moveEntry, List.mem_append, List.mem_cons] at h
  rcases h with h | h | h
  · exact .inr (List.mem_of_mem_erase (List.mem_of_mem_take h))
  · exact .inl h
  · exact .inr (List.mem_of_mem_erase (List.mem_of_mem_drop h))

theorem Builder.HasBody.reordered {element block copy mark : Nat} (h : b.HasBody)
    (hb : 3 < block) (hc : 3 < copy) :
    ({ b with
      formatting := (moveEntry (some element) (some copy) mark b.formatting.reverse).reverse
      stack := (b.stack.erase element).flatMap fun i =>
        if i == block then [copy, i] else [i] }).HasBody where
  sketch := h.sketch
  formatting := by
    intro i hi
    rcases mem_moveEntry (List.mem_reverse.mp hi) with he | hold
    · cases he
      exact hc
    · exact h.formatting (List.mem_reverse.mp hold)
  stack := by
    have hlow : ∀ {i x : Nat}, x ∈ (if i == block then [copy, i] else [i]) → (x ≤ 3 ↔ i ≤ 3) := by
      intro i x hx
      by_cases hi : i = block
      · simp only [hi, beq_self_eq_true, ↓reduceIte, List.mem_cons, List.not_mem_nil,
          or_false] at hx
        omega
      · simp only [beq_iff_eq, hi, ↓reduceIte, List.mem_singleton] at hx
        rw [hx]
    rw [List.pairwise_flatMap]
    refine ⟨?_, (h.stack.sublist List.erase_sublist).imp ?_⟩
    · intro i _
      split
      · exact List.pairwise_pair.mpr fun hle => absurd hc (by omega)
      · exact List.pairwise_singleton _ _
    · intro i j hij x hx y hy
      rw [hlow hx, hlow hy]
      exact hij

theorem Sketch.HasBody.extends_moved {block copy : Nat} (hs : sketch.HasBody) (hb : 3 < block)
    (hc : 3 < copy) : sketch.Extends ((sketch.moveChildren block copy).append block copy) :=
  (Sketch.extends_moveChildren (hs.later block hb)).trans (Sketch.extends_append hc)

@[spec] theorem reorderAround_bodied (element block : Nat) (hb : 3 < block) :
    ⦃Bodied⦄ reorderAround element block ⦃⇓ _ => Bodied⦄ := by
  unfold reorderAround
  refine bodied_get_bind fun b => ?_
  refine bodied_bind (moveOut_bodied _ _ _ _ _ _ hb) ?_
  intro moved hlast
  refine bodied_get_bind fun b => ?_
  -- Each way to place the moved element goes on with the copy.
  extract_lets adopt
  have hadopt : ∀ u, ⦃Bodied⦄ adopt u ⦃⇓ _ => Bodied⦄ := by
    intro u
    mvcgen [adopt]
    all_goals grind [Builder.HasBody.reordered, Sketch.HasBody.extends_moved]
  clear_value adopt
  mvcgen [hadopt]
  all_goals grind [Sketch.extends_append, Sketch.extends_insertBefore]

end Steps

end EditorBlocks.Markup
