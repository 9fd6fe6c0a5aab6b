import EditorBlocks.Markup.Location
import EditorBlocks.Markup.Sketch
import Mathlib.Data.List.TakeDrop
/-! The body of a sketch. An empty document has the nodes 0 to 3: the root, and the elements html,
head and body. No change of a sketch moves them or takes them away. -/

namespace EditorBlocks.Markup

namespace Sketch
variable {s t u : Sketch} {i c p : Nat}

theorem size_setChildren (s : Sketch) (p : Nat) (cs : List Nat) :
    (s.setChildren p cs).nodes.size = s.nodes.size := Array.size_modify

theorem size_setParent (s : Sketch) (i : Nat) (parent : Option Nat) :
    (s.setParent i parent).nodes.size = s.nodes.size := Array.size_modify

theorem children_setChildren (s : Sketch) (p : Nat) (cs : List Nat) (i : Nat) :
    (s.setChildren p cs).children i = if p = i ∧ i < s.nodes.size then cs else s.children i := by
  rw [children, setChildren, Array.getElem?_modify]
  by_cases hp : p = i
  · by_cases hi : i < s.nodes.size
    · simp [hp, hi]
    · simp [hp, hi, children]
  · simp [hp, children]

theorem children_setParent (s : Sketch) (i : Nat) (parent : Option Nat) (j : Nat) :
    (s.setParent i parent).children j = s.children j := by
  rw [children, setParent, Array.getElem?_modify, children]
  split
  · cases s.nodes[j]? <;> rfl
  · rfl

theorem content?_setChildren (s : Sketch) (p : Nat) (cs : List Nat) (i : Nat) :
    (s.setChildren p cs).content? i = s.content? i := by
  rw [content?, setChildren, Array.getElem?_modify, content?]
  split
  · cases s.nodes[i]? <;> rfl
  · rfl

theorem content?_setParent (s : Sketch) (i : Nat) (parent : Option Nat) (j : Nat) :
    (s.setParent i parent).content? j = s.content? j := by
  rw [content?, setParent, Array.getElem?_modify, content?]
  split
  · cases s.nodes[j]? <;> rfl
  · rfl

/-- A sketch that has grown out of another: elements are still there under their names, and the
nodes 0 to 3 have the same places. -/
structure Extends (s t : Sketch) : Prop where
  size : s.nodes.size ≤ t.nodes.size
  elements : ∀ {i : Nat} {tag : Tag}, s.content? i = some (.element tag) →
    ∃ tag', t.content? i = some (.element tag') ∧ tag'.name = tag.name
  places : ∀ {i c : Nat}, c ≤ 3 → (c ∈ t.children i ↔ c ∈ s.children i)

theorem Extends.refl (s : Sketch) : s.Extends s where
  size := Nat.le_refl _
  elements h := ⟨_, h, rfl⟩
  places _ := Iff.rfl

theorem Extends.trans (h : s.Extends t) (h' : t.Extends u) : s.Extends u where
  size := Nat.le_trans h.size h'.size
  elements he := by
    obtain ⟨tag, ht, hname⟩ := h.elements he
    obtain ⟨tag', hu, hname'⟩ := h'.elements ht
    exact ⟨tag', hu, hname'.trans hname⟩
  places hc := (h'.places hc).trans (h.places hc)

/-- Children that differ in later nodes alone may be put in the place of others. -/
theorem extends_setChildren {cs : List Nat} (h : ∀ c, c ≤ 3 → (c ∈ cs ↔ c ∈ s.children p)) :
    s.Extends (s.setChildren p cs) where
  size := Nat.le_of_eq (s.size_setChildren p cs).symm
  elements he := ⟨_, (s.content?_setChildren p cs _).trans he, rfl⟩
  places := by
    intro i c hc
    rw [children_setChildren]
    split
    · rename_i hp
      rw [← hp.1]
      exact h c hc
    · rfl

theorem extends_setParent (s : Sketch) (i : Nat) (parent : Option Nat) :
    s.Extends (s.setParent i parent) where
  size := Nat.le_of_eq (s.size_setParent i parent).symm
  elements he := ⟨_, (s.content?_setParent i parent _).trans he, rfl⟩
  places := by
    intro j c _
    rw [children_setParent]

theorem extends_detach (hi : 3 < i) : s.Extends (s.detach i) := by
  unfold detach
  split
  · refine (extends_setChildren fun c hc => ?_).trans (extends_setParent _ _ _)
    have hne : c ≠ i := by omega
    simp [hne]
  · exact .refl s

theorem extends_append (hi : 3 < i) : s.Extends (s.append p i) := by
  refine (extends_detach hi).trans ((extends_setChildren fun c hc => ?_).trans
    (extends_setParent _ _ _))
  have hne : c ≠ i := by omega
  simp [hne]

theorem extends_insertBefore {sibling : Nat} (hi : 3 < i) :
    s.Extends (s.insertBefore p sibling i) := by
  unfold insertBefore
  simp only [List.span_eq_takeWhile_dropWhile]
  refine (extends_detach hi).trans ((extends_setChildren fun c hc => ?_).trans
    (extends_setParent _ _ _))
  have hne : c ≠ i := by omega
  rw [List.mem_append, List.mem_cons, or_iff_right hne, ← List.mem_append,
    List.takeWhile_append_dropWhile]

theorem extends_add (s : Sketch) (content : SketchContent) : s.Extends (s.add content).1 where
  size := by simp [add]
  elements := by
    intro i tag h
    refine ⟨tag, ?_, rfl⟩
    rw [content?, add, Array.getElem?_push]
    split
    · rename_i hi
      simp [content?, hi] at h
    · exact h
  places := by
    intro i c _
    rw [children, add, Array.getElem?_push, children]
    split
    · rename_i hi
      simp [hi]
    · rfl

theorem extends_extendText (s : Sketch) (i : Nat) (data : List Char) :
    s.Extends (s.extendText i data) where
  size := Nat.le_of_eq Array.size_modify.symm
  elements := by
    intro j tag h
    refine ⟨tag, ?_, rfl⟩
    rw [content?, Option.map_eq_some_iff] at h
    obtain ⟨n, hn, htag⟩ := h
    rw [content?, extendText, Array.getElem?_modify, hn]
    split <;> simp [htag]
  places := by
    intro j c _
    rw [children, extendText, Array.getElem?_modify, children]
    split
    · cases s.nodes[j]? with
      | none => rfl
      | some n =>
        simp only [Option.map_some, Option.getD_some]
        split <;> rfl
    · rfl

theorem extends_setTag {tag : Tag} (h : tag.name = (s.tag i).name) :
    s.Extends (s.setTag i tag) where
  size := Nat.le_of_eq Array.size_modify.symm
  elements := by
    intro j old hj
    rw [content?, setTag, Array.getElem?_modify]
    by_cases hi : i = j
    · rw [if_pos hi]
      have hold : s.tag i = old := by rw [Sketch.tag, hi, hj]
      rw [content?, Option.map_eq_some_iff] at hj
      obtain ⟨n, hn, -⟩ := hj
      exact ⟨tag, by rw [hn]; rfl, by rw [h, hold]⟩
    · rw [if_neg hi]
      exact ⟨old, hj, rfl⟩
  places := by
    intro j c _
    rw [children, setTag, Array.getElem?_modify, children]
    split
    · cases s.nodes[j]? <;> rfl
    · rfl

section Text
variable {data : List Char} {sibling : Nat}

theorem extends_appendText (hs : 3 < s.nodes.size) : s.Extends (s.appendText p data) := by
  unfold appendText
  split
  · split
    · exact extends_extendText s _ data
    · exact (extends_add s _).trans (extends_append hs)
  · exact (extends_add s _).trans (extends_append hs)

theorem extends_insertTextBefore (hs : 3 < s.nodes.size) :
    s.Extends (s.insertTextBefore p sibling data) := by
  unfold insertTextBefore
  split
  · split
    · exact extends_extendText s _ data
    · exact (extends_add s _).trans (extends_insertBefore hs)
  · exact (extends_add s _).trans (extends_insertBefore hs)

end Text

theorem extends_moveChildren {target : Nat} (h : ∀ c ∈ s.children i, 3 < c) :
    s.Extends (s.moveChildren i target) := by
  have hfold : ∀ (cs : List Nat) (t : Sketch), (∀ c ∈ cs, 3 < c) →
      t.Extends (cs.foldl (fun t c => t.append target c) t) := by
    intro cs
    induction cs with
    | nil => exact fun t _ => .refl t
    | cons c rest ih =>
      intro t hcs
      rw [List.forall_mem_cons] at hcs
      exact (extends_append hcs.1).trans (ih _ hcs.2)
  exact hfold _ s h

/-- The body stands in the root element, which stands at the top, and no later node holds one of
the first four. -/
structure HasBody (s : Sketch) : Prop where
  size : 3 < s.nodes.size
  root : 1 ∈ s.children 0
  body : 3 ∈ s.children 1
  isElement : ∃ tag, s.content? 1 = some (.element tag)
  isBody : ∃ tag, s.content? 3 = some (.element tag) ∧ tag.name = "body"
  later : ∀ i, 3 < i → ∀ c ∈ s.children i, 3 < c

theorem HasBody.of_extends (h : s.HasBody) (ht : s.Extends t) : t.HasBody where
  size := Nat.lt_of_lt_of_le h.size ht.size
  root := (ht.places (by omega)).mpr h.root
  body := (ht.places (by omega)).mpr h.body
  isElement := by
    obtain ⟨tag, htag⟩ := h.isElement
    obtain ⟨tag', htag', -⟩ := ht.elements htag
    exact ⟨tag', htag'⟩
  isBody := by
    obtain ⟨tag, htag, hname⟩ := h.isBody
    obtain ⟨tag', htag', hname'⟩ := ht.elements htag
    exact ⟨tag', htag', hname'.trans hname⟩
  later := by
    intro i hi c hc
    by_cases hlow : c ≤ 3
    · exact h.later i hi c ((ht.places hlow).mp hc)
    · omega

end Sketch

end EditorBlocks.Markup

namespace EditorBlocks

/-- Where siblings are searched for elements, each of them is found, and what is inside it. -/
theorem Location.exists_among (parent : Location) (before : List Node) {nodes children : List Node}
    {tag : Tag} (h : .element tag children ∈ nodes) : ∃ here : Location, here.tag? = some tag ∧
      here ∈ elementsAmong parent before nodes ∧
      ∀ l ∈ elementsAmong here [] children, l ∈ elementsAmong parent before nodes := by
  induction nodes generalizing before with
  | nil => cases h
  | cons node rest ih =>
    rw [elementsAmong]
    rcases List.mem_cons.mp h with rfl | h
    · refine ⟨inside parent before (.element tag children) rest, rfl, by simp [Node.isElement], ?_⟩
      intro l hl
      simp only [Node.isElement, ↓reduceIte, List.mem_cons, List.mem_append]
      exact .inr (.inl hl)
    · obtain ⟨here, htag, hhere, hbelow⟩ := ih (node :: before) h
      refine ⟨here, htag, ?_, ?_⟩
      · split
        · exact List.mem_cons_of_mem _ (List.mem_append_right _ hhere)
        · exact hhere
      · intro l hl
        split
        · exact List.mem_cons_of_mem _ (List.mem_append_right _ (hbelow l hl))
        · exact hbelow l hl

/-- A document has a body if its sketch has one. -/
theorem Markup.Sketch.HasBody.body?_isSome {s : Markup.Sketch} (h : s.HasBody) :
    s.toDocument.body?.isSome := by
  obtain ⟨tag, htag⟩ := h.isElement
  obtain ⟨bodyTag, hbodyTag, hname⟩ := h.isBody
  have hsize := h.size
  obtain ⟨depth, hdepth⟩ : ∃ depth, s.nodes.size = depth + 2 := ⟨s.nodes.size - 2, by omega⟩
  have hbody : Node.element bodyTag ((s.children 3).filterMap (s.toNode? depth)) ∈
      (s.children 1).filterMap (s.toNode? (depth + 1)) :=
    List.mem_filterMap.mpr ⟨3, h.body, by rw [Markup.Sketch.toNode?, hbodyTag]⟩
  have hroot : Node.element tag ((s.children 1).filterMap (s.toNode? (depth + 1))) ∈
      s.toDocument.nodes :=
    List.mem_filterMap.mpr ⟨1, h.root, by rw [hdepth, Markup.Sketch.toNode?, htag]⟩
  obtain ⟨here, -, -, hbelow⟩ := Location.exists_among (.top s.toDocument) [] hroot
  obtain ⟨l, hl, hfound, -⟩ := Location.exists_among here [] hbody
  refine List.find?_isSome.mpr ⟨l, hbelow l hfound, ?_⟩
  rw [hl, Option.any_some, hname]
  rfl

end EditorBlocks
