import EditorBlocks.Markup.Location
import Mathlib.Data.List.Lex
import Mathlib.Data.List.Basic
/-! Document order: locations in the order of their paths. The elements inside a location are those
that have it among their ancestors, and they are listed in document order. -/

namespace EditorBlocks.Location
variable {a b c e l n : Location} {parent : Location} {before nodes : List Node}

/-! ### Children -/

theorem mem_places : c ∈ places parent before nodes ↔ ∃ pre node after,
    nodes = pre ++ node :: after ∧ c = inside parent (pre.reverse ++ before) node after := by
  induction nodes generalizing before with
  | nil =>
    constructor
    · intro h
      cases h
    · rintro ⟨pre, node, after, h, -⟩
      cases pre <;> cases h
  | cons first rest ih =>
    rw [places, List.mem_cons, ih]
    constructor
    · rintro (rfl | ⟨pre, node, after, rfl, rfl⟩)
      · exact ⟨[], first, rest, rfl, rfl⟩
      · exact ⟨first :: pre, node, after, rfl, by simp⟩
    · rintro ⟨pre, node, after, h, rfl⟩
      cases pre with
      | nil =>
        cases h
        exact .inl rfl
      | cons p pre =>
        cases h
        exact .inr ⟨pre, node, after, rfl, by simp⟩

theorem mem_children : c ∈ l.children ↔ ∃ before node after,
    l.childNodes = before.reverse ++ node :: after ∧ c = inside l before node after := by
  rw [children, mem_places]
  constructor
  · rintro ⟨pre, node, after, h, rfl⟩
    exact ⟨pre.reverse, node, after, by simpa using h, by simp⟩
  · rintro ⟨before, node, after, h, rfl⟩
    exact ⟨before.reverse, node, after, h, by simp⟩

/-- The children of a location are smaller than it, so that what holds of one if it holds of its
children holds of all. -/
theorem childInduction {P : Location → Prop} (step : ∀ l, (∀ c ∈ l.children, P c) → P l)
    (l : Location) : P l := by
  refine step l fun c hc => childInduction step c
termination_by sizeOf l.childNodes
decreasing_by
  obtain ⟨before, node, after, h, rfl⟩ := mem_children.mp hc
  have hmem : node ∈ l.childNodes := by simp [h]
  have hnode := List.sizeOf_lt_of_mem hmem
  have hinner : sizeOf node.children ≤ sizeOf node := by
    cases node <;> simp [Node.children]
  exact Nat.lt_of_le_of_lt hinner hnode

/-! ### What is inside -/

/-- What is inside is put together from the children, each with what is inside it. -/
theorem elementsAmong_eq (parent : Location) (before nodes : List Node) :
    elementsAmong parent before nodes =
      (places parent before nodes).flatMap fun c => if c.isElement then c :: c.descendants else [] := by
  induction nodes generalizing before with
  | nil => rw [elementsAmong, places, List.flatMap_nil]
  | cons node rest ih =>
    rw [elementsAmong, places, List.flatMap_cons, ih]
    cases node with
    | element tag children =>
      have hhere : (inside parent before (.element tag children) rest).descendants =
          elementsBelow (inside parent before (.element tag children) rest)
            (.element tag children) := by
        rw [descendants, elementsBelow]
        rfl
      rw [hhere]
      rfl
    | text data => rfl
    | comment data => rfl

theorem mem_descendants_iff_child :
    e ∈ l.descendants ↔ ∃ c ∈ l.children, c.isElement ∧ (e = c ∨ e ∈ c.descendants) := by
  rw [descendants, elementsAmong_eq, List.mem_flatMap]
  refine exists_congr fun c => and_congr_right fun _ => ?_
  by_cases hc : c.isElement <;> simp [hc]

theorem descendants_trans (hb : b ∈ a.descendants) (hc : c ∈ b.descendants) :
    c ∈ a.descendants := by
  induction a using childInduction with
  | step a ih =>
    obtain ⟨child, hchild, helement, h⟩ := mem_descendants_iff_child.mp hb
    refine mem_descendants_iff_child.mpr ⟨child, hchild, helement, .inr ?_⟩
    rcases h with rfl | h
    · exact hc
    · exact ih child hchild h

theorem isElement_of_mem_descendants (h : e ∈ l.descendants) : e.isElement := by
  induction l using childInduction with
  | step l ih =>
    obtain ⟨c, hc, helement, rfl | h⟩ := mem_descendants_iff_child.mp h
    · exact helement
    · exact ih c hc h

/-! ### Paths -/

theorem path_of_mem_children (h : c ∈ l.children) : ∃ k, c.path = l.path ++ [k] := by
  obtain ⟨before, node, after, -, rfl⟩ := mem_children.mp h
  exact ⟨before.length, rfl⟩

theorem path_of_mem_descendants (h : e ∈ l.descendants) :
    ∃ k rest, e.path = l.path ++ k :: rest := by
  induction l using childInduction with
  | step l ih =>
    obtain ⟨c, hc, -, h⟩ := mem_descendants_iff_child.mp h
    obtain ⟨k, hk⟩ := path_of_mem_children hc
    rcases h with rfl | h
    · exact ⟨k, [], hk⟩
    · obtain ⟨j, rest, hj⟩ := ih c hc h
      exact ⟨k, j :: rest, by rw [hj, hk, List.append_assoc, List.singleton_append]⟩

/-- A location comes before another in document order. An element comes before what it holds. -/
def Precedes (a b : Location) : Prop := a.path < b.path

theorem Precedes.trans (hab : a.Precedes b) (hbc : b.Precedes c) : a.Precedes c :=
  List.lt_trans hab hbc

theorem not_precedes_self (l : Location) : ¬l.Precedes l := List.lt_irrefl l.path

theorem Precedes.not_same (h : a.Precedes b) : a.same b = false := by
  refine beq_eq_false_iff_ne.mpr fun heq => ?_
  rw [Precedes, heq] at h
  exact List.lt_irrefl _ h

theorem precedes_of_mem_descendants (h : e ∈ l.descendants) : l.Precedes e := by
  obtain ⟨k, rest, he⟩ := path_of_mem_descendants h
  have hlt : l.path ++ [] < l.path ++ k :: rest := List.append_left_lt (List.nil_lt_cons k rest)
  rwa [List.append_nil, ← he] at hlt

/-- Between siblings the numbers decide, also for what they hold. -/
theorem precedes_of_siblings {path : List Nat} {i j : Nat} {p q : List Nat} (hij : i < j)
    (ha : a.path = path ++ i :: p) (hb : b.path = path ++ j :: q) : a.Precedes b := by
  rw [Precedes, ha, hb]
  exact List.append_left_lt (List.cons_lt_cons_iff.mpr (.inl hij))

theorem path_of_mem_places (h : c ∈ places parent before nodes) :
    ∃ k, before.length ≤ k ∧ c.path = parent.path ++ [k] := by
  obtain ⟨pre, node, after, -, rfl⟩ := mem_places.mp h
  exact ⟨(pre.reverse ++ before).length, by simp, rfl⟩

/-- Of two children one has the smaller number. -/
theorem places_pairwise (parent : Location) (before nodes : List Node) :
    (places parent before nodes).Pairwise fun a b =>
      ∃ i j, i < j ∧ a.path = parent.path ++ [i] ∧ b.path = parent.path ++ [j] := by
  induction nodes generalizing before with
  | nil => exact .nil
  | cons node rest ih =>
    refine .cons (fun c hc => ?_) (ih (node :: before))
    obtain ⟨k, hk, hpath⟩ := path_of_mem_places hc
    exact ⟨before.length, k, hk, rfl, hpath⟩

theorem children_pairwise (l : Location) : l.children.Pairwise Precedes := by
  refine (places_pairwise l [] l.childNodes).imp fun ⟨i, j, hij, ha, hb⟩ => ?_
  exact precedes_of_siblings hij ha hb

/-- What is inside a location is listed in document order. -/
theorem descendants_pairwise (l : Location) : l.descendants.Pairwise Precedes := by
  induction l using childInduction with
  | step l ih =>
    rw [descendants, elementsAmong_eq, List.pairwise_flatMap]
    refine ⟨fun c hc => ?_, (places_pairwise l [] l.childNodes).imp ?_⟩
    · by_cases hc' : c.isElement
      · rw [if_pos hc']
        exact .cons (fun e he => precedes_of_mem_descendants he) (ih c hc)
      · rw [if_neg hc']
        exact .nil
    · -- what is in one child has the number of the child in its path
      have hnumber : ∀ {c e : Location} {i : Nat}, c.path = l.path ++ [i] →
          (e ∈ if c.isElement then c :: c.descendants else []) → ∃ p, e.path = l.path ++ i :: p := by
        intro c e i hi he
        by_cases hc : c.isElement
        · rw [if_pos hc, List.mem_cons] at he
          rcases he with rfl | he
          · exact ⟨[], hi⟩
          · obtain ⟨k, rest, hk⟩ := path_of_mem_descendants he
            exact ⟨k :: rest, by rw [hk, hi, List.append_assoc, List.singleton_append]⟩
        · rw [if_neg hc] at he
          cases he
      rintro a b ⟨i, j, hij, ha, hb⟩ x hx y hy
      obtain ⟨p, hp⟩ := hnumber ha hx
      obtain ⟨q, hq⟩ := hnumber hb hy
      exact precedes_of_siblings hij hp hq

/-! ### Locations of one document -/

/-- The document that a location belongs to. -/
def document : Location → Document
  | top document => document
  | inside parent _ _ _ => parent.document

/-- A node and its siblings make up what the parent holds, all the way to the top. -/
def Fits : Location → Prop
  | top _ => True
  | inside parent before node after =>
    parent.childNodes = before.reverse ++ node :: after ∧ parent.Fits

theorem Fits.eq_of_path (ha : a.Fits) (hb : b.Fits) (hdocument : a.document = b.document)
    (hpath : a.path = b.path) : a = b := by
  induction a generalizing b with
  | top d =>
    cases b with
    | top d' => exact congrArg top hdocument
    | inside parent before node after => simp [path] at hpath
  | inside parent before node after ih =>
    cases b with
    | top d' => simp [path] at hpath
    | inside parent' before' node' after' =>
      obtain ⟨hparent, hnumber⟩ := List.append_inj' hpath rfl
      have hlength : before.length = before'.length := (List.cons.inj hnumber).1
      obtain rfl := ih ha.2 hb.2 hdocument hparent
      obtain ⟨hbefore, hrest⟩ := List.append_inj (ha.1.symm.trans hb.1) (by simpa using hlength)
      obtain ⟨rfl, rfl⟩ := List.cons.inj hrest
      obtain rfl := List.reverse_injective hbefore
      rfl

theorem fits_of_mem_children (hl : l.Fits) (h : c ∈ l.children) : c.Fits := by
  obtain ⟨before, node, after, hnodes, rfl⟩ := mem_children.mp h
  exact ⟨hnodes, hl⟩

theorem document_of_mem_ancestors (h : n ∈ e.ancestors) : n.document = e.document := by
  induction e with
  | top d => cases h
  | inside parent before node after ih =>
    rcases List.mem_cons.mp h with rfl | h
    · rfl
    · exact ih h

theorem ancestors_trans (hab : a ∈ b.ancestors) (hbc : b ∈ c.ancestors) : a ∈ c.ancestors := by
  induction c with
  | top d => cases hbc
  | inside parent before node after ih =>
    rcases List.mem_cons.mp hbc with rfl | h
    · exact List.mem_cons_of_mem _ hab
    · exact List.mem_cons_of_mem _ (ih h)

/-- The elements inside a location are those that fit and have it among their ancestors. -/
theorem mem_descendants (hn : n.Fits) :
    e ∈ n.descendants ↔ e.isElement ∧ e.Fits ∧ n ∈ e.ancestors := by
  constructor
  · intro h
    refine ⟨isElement_of_mem_descendants h, ?_⟩
    induction n using childInduction with
    | step n ih =>
      obtain ⟨c, hc, -, h⟩ := mem_descendants_iff_child.mp h
      have hfits := fits_of_mem_children hn hc
      have hancestor : n ∈ c.ancestors := by
        obtain ⟨before, node, after, -, rfl⟩ := mem_children.mp hc
        exact List.mem_cons_self
      rcases h with rfl | h
      · exact ⟨hfits, hancestor⟩
      · obtain ⟨he, hce⟩ := ih c hc hfits h
        exact ⟨he, ancestors_trans hancestor hce⟩
  · rintro ⟨helement, hfits, hancestor⟩
    induction e with
    | top d => cases hancestor
    | inside parent before node after ih =>
      have hchild : inside parent before node after ∈ parent.children :=
        mem_children.mpr ⟨before, node, after, hfits.1, rfl⟩
      have hinner : inside parent before node after ∈ parent.descendants :=
        mem_descendants_iff_child.mpr ⟨_, hchild, helement, .inl rfl⟩
      rcases List.mem_cons.mp hancestor with rfl | hancestor
      · exact hinner
      · -- a parent that has an ancestor is no document, and it holds something
        have hparent : parent.isElement := by
          cases parent with
          | top d => cases hancestor
          | inside grandparent before' node' after' =>
            cases node' with
            | element tag children => rfl
            | _ => simp [childNodes, Node.children, Fits] at hfits
        exact descendants_trans (ih hparent hfits.2 hancestor) hinner

theorem document_of_mem_descendants (hn : n.Fits) (h : e ∈ n.descendants) :
    e.document = n.document :=
  (document_of_mem_ancestors ((mem_descendants hn).mp h).2.2).symm

/-- A location whose path goes on from that of another is inside it. -/
theorem exists_ancestor (h : n.path <+: e.path) (hne : n.path ≠ e.path) :
    ∃ x ∈ e.ancestors, x.path = n.path := by
  induction e with
  | top d =>
    have hnil : n.path = [] := by simpa [path] using h
    exact absurd (by simpa [path] using hnil) hne
  | inside parent before node after ih =>
    rcases List.prefix_concat_iff.mp h with h | h
    · exact absurd h hne
    · by_cases heq : n.path = parent.path
      · exact ⟨parent, List.mem_cons_self, heq.symm⟩
      · obtain ⟨x, hx, hpath⟩ := ih h heq
        exact ⟨x, List.mem_cons_of_mem _ hx, hpath⟩

theorem fits_of_mem_ancestors (he : e.Fits) (h : n ∈ e.ancestors) : n.Fits := by
  induction e with
  | top d => cases h
  | inside parent before node after ih =>
    rcases List.mem_cons.mp h with rfl | h
    · exact he.2
    · exact ih he.2 h

end EditorBlocks.Location
