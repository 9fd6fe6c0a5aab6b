import EditorBlocks.Markup.Scope
import EditorBlocks.Proofs.Markup.Order
import EditorBlocks.Proofs.Selector.ScopeFree
import Mathlib.Data.List.Induction
/-! Narrowing of scopes: which elements a scope has, that none is there twice, and that they are in
document order as long as no selector asks for the scope. -/

namespace EditorBlocks

/-- The elements of a document, in document order. -/
def Document.elements (document : Document) : List Location := (Location.top document).descendants

namespace Location
variable {a b c : Location} {document : Document}

theorem mem_elements : a ∈ document.elements ↔ a.isElement ∧ a.Fits ∧ .top document ∈ a.ancestors :=
  mem_descendants (n := .top document) trivial

theorem fits_of_mem_elements (h : a ∈ document.elements) : a.Fits := (mem_elements.mp h).2.1

theorem eq_of_same (ha : a ∈ document.elements) (hb : b ∈ document.elements)
    (h : a.same b = true) : a = b := by
  have hdocument : a.document = b.document :=
    (document_of_mem_descendants (n := .top document) trivial ha).trans
      (document_of_mem_descendants (n := .top document) trivial hb).symm
  exact (fits_of_mem_elements ha).eq_of_path (fits_of_mem_elements hb) hdocument (eq_of_beq h)

theorem not_prefix_lt {p q s : List Nat} (h : p < q) (hp : ¬p <+: q) : p ++ s < q := by
  induction p generalizing q with
  | nil => exact absurd q.nil_prefix hp
  | cons i p ih =>
    cases q with
    | nil => exact absurd h (List.not_lt_nil _)
    | cons j q =>
      rw [List.cons_append, List.cons_lt_cons_iff]
      rcases List.cons_lt_cons_iff.mp h with hlt | ⟨rfl, htail⟩
      · exact .inl hlt
      · refine .inr ⟨rfl, ih htail fun hprefix => hp ?_⟩
        exact List.cons_prefix_cons.mpr ⟨rfl, hprefix⟩

/-- What is inside an element comes before an element that comes later and is not inside. -/
theorem Precedes.of_mem_descendants (hab : a.Precedes b) (ha : a ∈ document.elements)
    (hb : b ∈ document.elements) (hout : b ∉ a.descendants) (hc : c ∈ a.descendants) :
    c.Precedes b := by
  obtain ⟨k, rest, hpath⟩ := path_of_mem_descendants hc
  rw [Precedes, hpath]
  refine not_prefix_lt hab fun hprefix => hout ?_
  obtain ⟨helement, hfits, -⟩ := mem_elements.mp hb
  have hne : a.path ≠ b.path := fun h => by
    rw [Precedes, h] at hab
    exact List.lt_irrefl _ hab
  obtain ⟨x, hx, hsame⟩ := exists_ancestor hprefix hne
  have hdocument : x.document = a.document :=
    (document_of_mem_ancestors hx).trans ((document_of_mem_descendants (n := .top document) trivial
      hb).trans (document_of_mem_descendants (n := .top document) trivial ha).symm)
  have hax : x = a :=
    (fits_of_mem_ancestors hfits hx).eq_of_path (fits_of_mem_elements ha) hdocument hsame
  rw [hax] at hx
  exact (mem_descendants (fits_of_mem_elements ha)).mpr ⟨helement, hfits, hx⟩

theorem mem_select {list : SelectorList} :
    b ∈ a.select list ↔ b ∈ a.descendants ∧ list.selects a b = true := by
  rw [select, List.mem_filter]

theorem select_pairwise (a : Location) (list : SelectorList) :
    (a.select list).Pairwise Precedes :=
  (descendants_pairwise a).filter _

end Location

namespace Scope
open Location
variable {document : Document} {s : Scope} {list : SelectorList} {e n : Location}
  {ns : List Location}

/-! ### One more place -/

theorem foldl_distinct {kept places : List Location}
    (h : places.Pairwise fun a b => a.same b = false) :
    places.foldl (fun kept l => if kept.any (·.same l) then kept else kept ++ [l]) kept =
      kept ++ places.filter fun l => !kept.any (·.same l) := by
  induction places generalizing kept with
  | nil => simp
  | cons l rest ih =>
    obtain ⟨hl, hrest⟩ := List.pairwise_cons.mp h
    rw [List.foldl_cons, List.filter_cons]
    by_cases hkept : kept.any (·.same l)
    · simp only [hkept, ↓reduceIte, Bool.not_true, Bool.false_eq_true]
      exact ih hrest
    · simp only [hkept, ↓reduceIte, Bool.not_false, Bool.false_eq_true]
      rw [ih hrest, List.append_assoc, List.singleton_append]
      congr 2
      refine List.filter_congr fun m hm => ?_
      rw [List.any_append, List.any_cons, List.any_nil, hl m hm, Bool.or_false, Bool.or_false]

/-- One more place adds what it selects and no place before it does. -/
theorem narrow_concat (ns : List Location) (n : Location) (list : SelectorList) :
    (narrow ⟨ns ++ [n]⟩ list).places = (narrow ⟨ns⟩ list).places ++
      (n.select list).filter fun e => !(narrow ⟨ns⟩ list).places.any (·.same e) := by
  have hselect : (n.select list).Pairwise fun a b => a.same b = false :=
    (select_pairwise n list).imp Precedes.not_same
  simp only [narrow, distinct, List.flatMap_append, List.flatMap_singleton, List.foldl_append]
  exact foldl_distinct hselect

theorem narrow_singleton (n : Location) (list : SelectorList) :
    narrow ⟨[n]⟩ list = ⟨n.select list⟩ := by
  have hconcat : (narrow ⟨[n]⟩ list).places = [] ++ (n.select list).filter fun _ => true :=
    narrow_concat [] n list
  rw [List.nil_append, List.filter_true] at hconcat
  exact congrArg Scope.mk hconcat

/-- The places of a scope are elements of a document, and no two are the same. -/
structure IsIn (document : Document) (s : Scope) : Prop where
  elements : ∀ l ∈ s.places, l ∈ document.elements
  distinct : s.places.Pairwise fun a b => a.same b = false

theorem IsIn.of_concat (h : IsIn document ⟨ns ++ [n]⟩) :
    IsIn document ⟨ns⟩ ∧ n ∈ document.elements := by
  refine ⟨⟨fun l hl => h.elements l (List.mem_append_left _ hl), ?_⟩, h.elements n (by simp)⟩
  exact (List.pairwise_append.mp h.distinct).1

/-- A scope is narrowed to the elements that some place of it has inside and selects. -/
theorem mem_narrow (h : s.IsIn document) :
    e ∈ (s.narrow list).places ↔ ∃ n ∈ s.places, e ∈ n.select list := by
  obtain ⟨places⟩ := s
  induction places using List.reverseRecOn generalizing e with
  | nil => simp [narrow, Scope.distinct]
  | append_singleton ns n ih =>
    obtain ⟨hns, hn⟩ := h.of_concat
    have hselected : ∀ {m x : Location}, m ∈ document.elements → x ∈ m.select list →
        x ∈ document.elements := fun hm hx => descendants_trans hm (mem_select.mp hx).1
    have hsplit : (∃ m ∈ ns ++ [n], e ∈ m.select list) ↔
        (∃ m ∈ ns, e ∈ m.select list) ∨ e ∈ n.select list := by
      simp [or_and_right, exists_or]
    rw [narrow_concat, List.mem_append, List.mem_filter, ih hns, hsplit]
    constructor
    · rintro (h | ⟨h, -⟩)
      · exact .inl h
      · exact .inr h
    · rintro (h | h)
      · exact .inl h
      · by_cases hkept : (narrow ⟨ns⟩ list).places.any (·.same e)
        · obtain ⟨x, hx, hsame⟩ := List.any_eq_true.mp hkept
          obtain ⟨m, hm, hmx⟩ := (ih hns).mp hx
          obtain rfl := eq_of_same (hselected (hns.elements m hm) hmx) (hselected hn h) hsame
          exact .inl ⟨m, hm, hmx⟩
        · exact .inr ⟨h, by simpa using hkept⟩

theorem IsIn.narrow (h : s.IsIn document) (list : SelectorList) :
    (s.narrow list).IsIn document := by
  refine ⟨fun e he => ?_, ?_⟩
  · obtain ⟨n, hn, hne⟩ := (mem_narrow h).mp he
    exact descendants_trans (h.elements n hn) (mem_select.mp hne).1
  · obtain ⟨places⟩ := s
    induction places using List.reverseRecOn with
    | nil => exact .nil
    | append_singleton ns n ih =>
      rw [narrow_concat, List.pairwise_append]
      refine ⟨ih h.of_concat.1, ?_, fun a ha b hb => ?_⟩
      · exact ((select_pairwise n list).imp Precedes.not_same).filter _
      · have hnew := (List.mem_filter.mp hb).2
        rw [Bool.not_eq_true', List.any_eq_false] at hnew
        exact Bool.eq_false_iff.mpr (hnew a ha)

/-- Document order is kept if what a place selects inside another place is selected by the outer
one too: later places then add nothing to what is behind them. -/
theorem narrow_ordered (h : s.IsIn document) (hs : s.places.Pairwise Precedes)
    (hinner : ∀ n ∈ s.places, ∀ m ∈ s.places, m ∈ n.descendants →
      ∀ e ∈ m.descendants, list.selects m e = true → list.selects n e = true) :
    (s.narrow list).places.Pairwise Precedes := by
  obtain ⟨places⟩ := s
  induction places using List.reverseRecOn with
  | nil => exact .nil
  | append_singleton ns n ih =>
    obtain ⟨hns, hn⟩ := h.of_concat
    obtain ⟨hordered, -, hbefore⟩ := List.pairwise_append.mp hs
    have hold := ih hns hordered fun n hn m hm =>
      hinner n (List.mem_append_left _ hn) m (List.mem_append_left _ hm)
    rw [narrow_concat, List.pairwise_append]
    refine ⟨hold, (select_pairwise n list).filter _, fun a ha b hb => ?_⟩
    obtain ⟨m, hm, hma⟩ := (mem_narrow hns).mp ha
    obtain ⟨hb, hnew⟩ := List.mem_filter.mp hb
    obtain ⟨hbn, hselects⟩ := mem_select.mp hb
    have hmn : m.Precedes n := hbefore m hm n (by simp)
    by_cases hin : n ∈ m.descendants
    · have hmb : b ∈ m.select list := mem_select.mpr ⟨descendants_trans hin hbn,
        hinner m (List.mem_append_left _ hm) n (by simp) hin b hbn hselects⟩
      have hkept : (narrow ⟨ns⟩ list).places.any (·.same b) = true :=
        List.any_eq_true.mpr ⟨b, (mem_narrow hns).mpr ⟨m, hm, hmb⟩, beq_self_eq_true _⟩
      rw [hkept] at hnew
      cases hnew
    · have han : a.Precedes n :=
        hmn.of_mem_descendants (hns.elements m hm) hn hin (mem_select.mp hma).1
      exact han.trans (precedes_of_mem_descendants hbn)

/-! ### Scopes that are reached from a fragment -/

theorem isIn_ofFragment (html : String) : (ofFragment html).IsIn (Document.ofFragment html) := by
  constructor
  · intro l hl
    exact List.mem_of_find?_eq_some (Option.mem_toList.mp hl)
  · rw [ofFragment]
    cases (Document.ofFragment html).body? with
    | none => exact .nil
    | some body => exact List.pairwise_singleton _ body

theorem ordered_ofFragment (html : String) : (ofFragment html).places.Pairwise Precedes := by
  rw [ofFragment]
  cases (Document.ofFragment html).body? with
  | none => exact .nil
  | some body => exact List.pairwise_singleton _ body

theorem children_sublist (h : s.IsIn document) :
    (∀ l ∈ s.children.places, l ∈ document.elements) ∧ s.children.places.Pairwise Precedes := by
  obtain ⟨places⟩ := s
  cases places with
  | nil => exact ⟨fun l hl => (List.not_mem_nil hl).elim, .nil⟩
  | cons first rest =>
    refine ⟨fun l hl => ?_, (children_pairwise first).filter _⟩
    obtain ⟨hchild, helement⟩ := List.mem_filter.mp hl
    have hinside : l ∈ first.descendants :=
      mem_descendants_iff_child.mpr ⟨l, hchild, helement, .inl rfl⟩
    exact descendants_trans (h.elements first List.mem_cons_self) hinside

theorem IsIn.children (h : s.IsIn document) : s.children.IsIn document :=
  ⟨(children_sublist h).1, (children_sublist h).2.imp Precedes.not_same⟩

theorem IsIn.one (h : s.IsIn document) {m : Scope} (hm : m ∈ s.each) : m.IsIn document := by
  obtain ⟨l, hl, rfl⟩ := List.mem_map.mp hm
  exact ⟨List.forall_mem_singleton.mpr (h.elements l hl), List.pairwise_singleton _ l⟩

/-- What a selector text narrows to: nothing changes without places, else the text is read. -/
theorem filter_eq_ok {selector : String} {found : Scope} (h : s.filter selector = .ok found) :
    s.places = [] ∧ found = s ∨ ∃ list, SelectorList.read selector = .ok list ∧ found = s.narrow list := by
  unfold filter at h
  split at h
  · rename_i hempty
    exact .inl ⟨List.isEmpty_iff.mp hempty, (Except.ok.inj h).symm⟩
  · cases hread : SelectorList.read selector with
    | error e =>
      rw [hread] at h
      cases h
    | ok list =>
      rw [hread] at h
      exact .inr ⟨list, rfl, (Except.ok.inj h).symm⟩

/-- Scopes that are reached from that of a fragment by narrowing it with selectors that are allowed,
by going to the children and by taking one of the matches. -/
inductive Reached (allowed : SelectorList → Prop) (html : String) : Scope → Prop
  | fragment : Reached allowed html (ofFragment html)
  | narrowed {s found : Scope} {selector : String} (h : Reached allowed html s)
    (hfound : s.filter selector = .ok found)
    (hallowed : ∀ list, SelectorList.read selector = .ok list → allowed list) :
    Reached allowed html found
  | children {s : Scope} (h : Reached allowed html s) : Reached allowed html s.children
  | one {s m : Scope} (h : Reached allowed html s) (hm : m ∈ s.each) : Reached allowed html m

variable {html : String} {allowed : SelectorList → Prop}

theorem Reached.isIn (h : Reached allowed html s) : s.IsIn (Document.ofFragment html) := by
  induction h with
  | fragment => exact isIn_ofFragment html
  | narrowed _ hfound _ ih =>
    obtain ⟨-, rfl⟩ | ⟨list, -, rfl⟩ := filter_eq_ok hfound
    · exact ih
    · exact ih.narrow list
  | children _ ih => exact ih.children
  | one _ hm ih => exact ih.one hm

theorem narrow_ordered_of_not_usesScope (h : s.IsIn document) (hs : s.places.Pairwise Precedes)
    (hlist : list.usesScope = false) : (s.narrow list).places.Pairwise Precedes := by
  refine narrow_ordered h hs fun n _ m _ _ e _ hselects => ?_
  rwa [SelectorList.selects_congr hlist n m e]

/-- Document order is kept as long as no selector asks for the scope. -/
theorem Reached.ordered (h : Reached (fun list => list.usesScope = false) html s) :
    s.places.Pairwise Precedes := by
  induction h with
  | fragment => exact ordered_ofFragment html
  | narrowed hs hfound hallowed ih =>
    obtain ⟨-, rfl⟩ | ⟨list, hread, rfl⟩ := filter_eq_ok hfound
    · exact ih
    · exact narrow_ordered_of_not_usesScope hs.isIn ih (hallowed list hread)
  | children hs _ => exact (children_sublist hs.isIn).2
  | one _ hm _ =>
    obtain ⟨l, -, rfl⟩ := List.mem_map.mp hm
    exact List.pairwise_singleton _ l

/-- Lists in document order with the same members are the same. -/
theorem eq_of_ordered {as bs : List Location} (ha : as.Pairwise Precedes)
    (hb : bs.Pairwise Precedes) (h : ∀ l, l ∈ as ↔ l ∈ bs) : as = bs := by
  have hnodup : ∀ {ls : List Location}, ls.Pairwise Precedes → ls.Nodup := by
    intro ls hls
    refine hls.imp ?_
    rintro a b hab rfl
    exact not_precedes_self a hab
  have hperm : as.Perm bs := (List.perm_ext_iff_of_nodup (hnodup ha) (hnodup hb)).mpr h
  refine hperm.eq_of_pairwise (fun a b _ _ hab hba => ?_) ha hb
  exact absurd (hab.trans hba) (not_precedes_self a)

/-- An element stands inside one of the places. -/
def covers (s : Scope) (e : Location) : Bool := e.ancestors.any fun x => s.places.any x.same

theorem covers_iff (h : s.IsIn document) (he : e ∈ document.elements) :
    s.covers e ↔ ∃ n ∈ s.places, n ∈ e.ancestors := by
  rw [covers, List.any_eq_true]
  constructor
  · rintro ⟨x, hx, hn⟩
    obtain ⟨n, hn, hsame⟩ := List.any_eq_true.mp hn
    have hdocument : x.document = n.document :=
      (document_of_mem_ancestors hx).trans ((document_of_mem_descendants (n := .top document)
        trivial he).trans (document_of_mem_descendants (n := .top document) trivial
          (h.elements n hn)).symm)
    obtain rfl := (fits_of_mem_ancestors (fits_of_mem_elements he) hx).eq_of_path
      (fits_of_mem_elements (h.elements n hn)) hdocument (eq_of_beq hsame)
    exact ⟨x, hn, hx⟩
  · rintro ⟨n, hn, hx⟩
    exact ⟨n, hx, List.any_eq_true.mpr ⟨n, hn, beq_self_eq_true _⟩⟩

/-- What a scope is narrowed to, in terms of the document. -/
theorem mem_narrow_elements (h : s.IsIn document) : e ∈ (s.narrow list).places ↔
    e ∈ document.elements ∧ ∃ n ∈ s.places, n ∈ e.ancestors ∧ list.selects n e = true := by
  rw [mem_narrow h]
  constructor
  · rintro ⟨n, hn, hselect⟩
    obtain ⟨hin, hselects⟩ := mem_select.mp hselect
    have hfits := fits_of_mem_elements (h.elements n hn)
    exact ⟨descendants_trans (h.elements n hn) hin, n, hn, ((mem_descendants hfits).mp hin).2.2,
      hselects⟩
  · rintro ⟨he, n, hn, hancestor, hselects⟩
    have hin : e ∈ n.descendants := (mem_descendants (fits_of_mem_elements (h.elements n hn))).mpr
      ⟨(mem_elements.mp he).1, fits_of_mem_elements he, hancestor⟩
    exact ⟨n, hn, mem_select.mpr ⟨hin, hselects⟩⟩

theorem narrow_eq_filter (h : s.IsIn document) (hs : s.places.Pairwise Precedes)
    (hlist : list.usesScope = false) (scope : Location) :
    (s.narrow list).places =
      document.elements.filter fun e => s.covers e && list.selects scope e := by
  refine eq_of_ordered (narrow_ordered_of_not_usesScope h hs hlist)
    ((descendants_pairwise _).filter _) fun e => ?_
  rw [mem_narrow_elements h, List.mem_filter, Bool.and_eq_true]
  refine and_congr_right fun he => ?_
  rw [covers_iff h he]
  simp only [SelectorList.selects_congr hlist _ scope e, ← and_assoc, exists_and_right]

theorem isOk_filter {selector : String} (h : (SelectorList.read selector).isOk) :
    (s.filter selector).isOk := by
  unfold filter
  split
  · rfl
  · cases hread : SelectorList.read selector with
    | error e =>
      rw [hread] at h
      cases h
    | ok list => rfl

/-- Scopes that are reached from a fragment have different elements of its document. Narrowing keeps
the elements that some place has inside and selects. If no selector asks for the scope, what is
reached is in document order, and narrowing picks the elements inside the scope that are selected
out of the document. -/
theorem narrowing_exact (html : String) :
    (∀ s, Reached (fun _ => True) html s →
      (∀ l ∈ s.places, l ∈ (Document.ofFragment html).elements) ∧
      s.places.Pairwise (fun a b => a.same b = false) ∧
      ∀ selector, ((SelectorList.read selector).isOk → (s.filter selector).isOk) ∧
        ∀ found, s.filter selector = .ok found → ∀ e, e ∈ found.places ↔
          ∃ list, SelectorList.read selector = .ok list ∧ e ∈ (Document.ofFragment html).elements ∧
            ∃ n ∈ s.places, n ∈ e.ancestors ∧ list.selects n e = true) ∧
    ∀ s, Reached (fun list => list.usesScope = false) html s →
      s.places.Pairwise Precedes ∧
      ∀ selector found list scope, s.filter selector = .ok found →
        SelectorList.read selector = .ok list → list.usesScope = false →
        found.places =
          (Document.ofFragment html).elements.filter fun e => s.covers e && list.selects scope e := by
  refine ⟨fun s hs => ⟨hs.isIn.elements, hs.isIn.distinct, fun selector => ⟨isOk_filter, ?_⟩⟩,
    fun s hs => ⟨hs.ordered, ?_⟩⟩
  · intro found hfound e
    obtain ⟨hnone, rfl⟩ | ⟨list, hread, rfl⟩ := filter_eq_ok hfound
    · rw [hnone]
      exact iff_of_false List.not_mem_nil fun ⟨_, _, _, n, hn, _⟩ => List.not_mem_nil hn
    · rw [mem_narrow_elements hs.isIn]
      constructor
      · rintro ⟨he, n, hn, hancestor, hselects⟩
        exact ⟨list, hread, he, n, hn, hancestor, hselects⟩
      · rintro ⟨list', hread', h⟩
        obtain rfl := Except.ok.inj (hread.symm.trans hread')
        exact h
  · intro selector found list scope hfound hread hlist
    obtain ⟨hnone, rfl⟩ | ⟨list', hread', rfl⟩ := filter_eq_ok hfound
    · have hcovers : ∀ e, found.covers e = false := fun e => by simp [covers, hnone]
      simp [hnone, hcovers]
    · obtain rfl := Except.ok.inj (hread.symm.trans hread')
      exact narrow_eq_filter hs.isIn hs.ordered hlist scope

/-- Divisions inside each other, with the same paragraph in each. -/
def divisions : String := "<div><div><p>x</p></div><p>x</p></div>"

theorem eq_ok_of_toOption {ε α : Type} {x : Except ε α} {a : α} (h : x.toOption = some a) :
    x = .ok a := by
  cases x with
  | error e => cases h
  | ok b =>
    cases h
    rfl

theorem divisions_narrowed : ∃ outer inner, (ofFragment divisions).filter "div" = .ok outer ∧
    outer.filter "p" = .ok inner ∧ inner.count = 2 ∧
    inner.places.Pairwise (fun a b => a.same b = false) ∧ inner.places.Pairwise Precedes := by
  have hfound : ((ofFragment divisions).filter "div").toOption.any (fun outer =>
      (outer.filter "p").toOption.any fun inner => inner.count == 2) = true := by
    decide +kernel
  have hfree : ∀ selector ∈ ["div", "p"], (SelectorList.read selector).toOption.all fun list =>
      list.usesScope = false := by
    decide +kernel
  obtain ⟨outer, houter, hfound⟩ := (Option.any_eq_true _ _).mp hfound
  obtain ⟨inner, hinner, hcount⟩ := (Option.any_eq_true _ _).mp hfound
  have houter := eq_ok_of_toOption houter
  have hinner := eq_ok_of_toOption hinner
  have hallowed : ∀ selector ∈ ["div", "p"], ∀ list, SelectorList.read selector = .ok list →
      list.usesScope = false := by
    intro selector hselector list hread
    have h := hfree selector hselector
    rw [hread] at h
    exact of_decide_eq_true h
  have hany : Reached (fun _ => True) divisions inner :=
    .narrowed (.narrowed .fragment houter fun _ _ => trivial) hinner fun _ _ => trivial
  have hreached : Reached (fun list => list.usesScope = false) divisions inner :=
    .narrowed (.narrowed .fragment houter (hallowed "div" (by simp))) hinner
      (hallowed "p" (by simp))
  obtain ⟨hexact, hordered⟩ := narrowing_exact divisions
  exact ⟨outer, inner, houter, hinner, eq_of_beq hcount, (hexact inner hany).2.1,
    (hordered inner hreached).1⟩

end Scope
end EditorBlocks
