import EditorBlocks.Proofs.Attribute.Selectors
import EditorBlocks.Proofs.Markup.Narrowing
/-! HTML in lines: the elements that a selector finds inside the matches of another, each of them
once. They are in document order where the lines do not ask for the scope, or no match is inside
another; otherwise the outer match goes first. -/

namespace EditorBlocks
open Location

/-! ### Lines of matches -/

namespace Scope
variable {document : Document} {list : SelectorList} {places ns : List Location} {e n : Location}

/-- Whether one of the places before this one selects an element. -/
def selectedBefore (list : SelectorList) (places : List Location) (n e : Location) : Bool :=
  places.any fun m => decide (m.path < n.path) && (m.select list).any (·.same e)

/-- What a place selects that no place before it does. -/
def firstSelected (list : SelectorList) (places : List Location) (n : Location) : List Location :=
  (n.select list).filter fun e => !selectedBefore list places n e

/-- The elements of a document that one of the places selects, in document order. -/
def selectedIn (document : Document) (list : SelectorList) (places : List Location) :
    List Location :=
  document.elements.filter fun e => places.any fun n => (n.select list).any (·.same e)

theorem any_same_iff {es : List Location} (hes : ∀ x ∈ es, x ∈ document.elements)
    (he : e ∈ document.elements) : es.any (·.same e) ↔ e ∈ es := by
  rw [List.any_eq_true]
  constructor
  · rintro ⟨x, hx, hsame⟩
    obtain rfl := eq_of_same (hes x hx) he hsame
    exact hx
  · intro h
    exact ⟨e, h, beq_self_eq_true _⟩

theorem elements_of_select (hn : n ∈ document.elements) :
    ∀ x ∈ n.select list, x ∈ document.elements :=
  fun _ hx => descendants_trans hn (mem_select.mp hx).1

theorem mem_selectedIn (h : IsIn document ⟨places⟩) :
    e ∈ selectedIn document list places ↔ ∃ n ∈ places, e ∈ n.select list := by
  rw [selectedIn, List.mem_filter, List.any_eq_true]
  constructor
  · rintro ⟨he, n, hn, hselect⟩
    exact ⟨n, hn, (any_same_iff (elements_of_select (h.elements n hn)) he).mp hselect⟩
  · rintro ⟨n, hn, hselect⟩
    have he := elements_of_select (h.elements n hn) e hselect
    exact ⟨he, n, hn, (any_same_iff (elements_of_select (h.elements n hn)) he).mpr hselect⟩

/-- A later place takes nothing from those before it. -/
theorem firstSelected_concat {m : Location} (h : n.Precedes m) :
    firstSelected list (ns ++ [m]) n = firstSelected list ns n := by
  have hnot : ¬m.path < n.path := fun hlt => not_precedes_self n (h.trans hlt)
  refine List.filter_congr fun e _ => ?_
  rw [selectedBefore, selectedBefore, List.any_append, List.any_cons, List.any_nil,
    decide_eq_false hnot, Bool.false_and, Bool.or_false, Bool.or_false]

/-- Places in document order are narrowed to what each of them is the first to select. -/
theorem narrow_eq_firstSelected (h : IsIn document ⟨places⟩) (hs : places.Pairwise Precedes) :
    (narrow ⟨places⟩ list).places = places.flatMap (firstSelected list places) := by
  induction places using List.reverseRecOn with
  | nil => rfl
  | append_singleton ns n ih =>
    obtain ⟨hns, hn⟩ := h.of_concat
    obtain ⟨hordered, -, hbefore⟩ := List.pairwise_append.mp hs
    have hold : ns.flatMap (firstSelected list (ns ++ [n])) =
        ns.flatMap (firstSelected list ns) := by
      rw [List.flatMap_def, List.flatMap_def]
      congr 1
      exact List.map_congr_left fun m hm => firstSelected_concat (hbefore m hm n (by simp))
    have hnew : (n.select list).filter (fun e => !(narrow ⟨ns⟩ list).places.any (·.same e)) =
        firstSelected list (ns ++ [n]) n := by
      refine List.filter_congr fun e he => ?_
      have he' := elements_of_select hn e he
      rw [Bool.not_inj_iff, Bool.eq_iff_iff, any_same_iff (hns.narrow list).elements he',
        mem_narrow hns, selectedBefore, List.any_append, List.any_cons, List.any_nil,
        decide_eq_false (List.lt_irrefl n.path), Bool.false_and, Bool.or_false, Bool.or_false,
        List.any_eq_true]
      refine exists_congr fun m => and_congr_right fun hm => ?_
      have hlt : m.path < n.path := hbefore m hm n (by simp)
      rw [decide_eq_true hlt, Bool.true_and, any_same_iff (elements_of_select (hns.elements m hm)) he']
    rw [narrow_concat, ih hns hordered, List.flatMap_append, List.flatMap_singleton, hold, ← hnew,
      ih hns hordered]

theorem narrow_perm_selectedIn (h : IsIn document ⟨places⟩) :
    (narrow ⟨places⟩ list).places.Perm (selectedIn document list places) := by
  have hnodup : (narrow ⟨places⟩ list).places.Nodup := by
    refine (h.narrow list).distinct.imp ?_
    rintro a b hab rfl
    exact absurd (beq_self_eq_true a.path) (Bool.eq_false_iff.mp hab)
  have hnodup' : (selectedIn document list places).Nodup := by
    refine ((descendants_pairwise _).filter _).imp ?_
    rintro a b hab rfl
    exact not_precedes_self a hab
  refine (List.perm_ext_iff_of_nodup hnodup hnodup').mpr fun e => ?_
  rw [mem_narrow h, mem_selectedIn h]

theorem narrow_eq_selectedIn (h : IsIn document ⟨places⟩) (hs : places.Pairwise Precedes)
    (hlist : list.usesScope = false ∨ ∀ n ∈ places, ∀ m ∈ places, m ∉ n.descendants) :
    (narrow ⟨places⟩ list).places = selectedIn document list places := by
  refine eq_of_ordered ?_ ((descendants_pairwise _).filter _) fun e => ?_
  · refine narrow_ordered h hs fun n hn m hm hin e _ hselects => ?_
    rcases hlist with hlist | hlist
    · rwa [SelectorList.selects_congr hlist n m e]
    · exact absurd hin (hlist n hn m hm)
  · rw [mem_narrow h, mem_selectedIn h]

end Scope

/-! ### Their HTML -/

namespace AttributeRule
variable {rule : AttributeRule} {data : PostData} {s found : Scope} {selector multiline : String}

/-- The HTML of elements, one after the other. -/
def htmlOf (es : List Location) : String :=
  String.join (es.filterMap fun e => e.node?.map Markup.outerHtml)

theorem outcome_linesHtml (s : Scope) (selector : String) : (linesHtml s selector).outcome =
    ((s.filter selector).mapError .selector).map fun lines =>
      .own (.str (htmlOf lines.places)) := by
  have heach : ∀ lines : Scope, lines.each.filterMap (·.outerHtml?) =
      lines.places.filterMap fun e => e.node?.map Markup.outerHtml := by
    intro lines
    rw [Scope.each, List.filterMap_map]
    rfl
  rw [linesHtml, Log.Noted.outcome_bind, Scope.outcome_narrowed]
  cases s.filter selector with
  | error e => rfl
  | ok lines =>
    simp only [heach]
    rfl

theorem outcome_find_lines (hsource : rule.source = some .html)
    (hselector : rule.selector = some selector) (hmultiline : rule.multiline = some multiline)
    (hfound : s.filter selector = .ok found) (hmatch : found.places ≠ []) :
    (rule.find data s).outcome =
      ((found.filter multiline).mapError .selector).map fun lines =>
        some (.own (.str (htmlOf lines.places))) := by
  have hcount : found.count ≠ 0 := fun h => hmatch (List.length_eq_zero_iff.mp h)
  have hnarrowed : (s.narrowedBy (some selector)).outcome = .ok found := by
    rw [Scope.narrowedBy, Scope.outcome_narrowed_eq_ok, hfound]
  simp only [find, hsource, hselector, hmultiline, Log.Noted.outcome_bind, hnarrowed]
  change (if found.count = 0 then _ else some <$> linesHtml found multiline : Resolving _).outcome = _
  rw [if_neg hcount, ← bind_pure_comp, Log.Noted.outcome_bind, outcome_linesHtml]
  cases found.filter multiline <;> rfl

end AttributeRule

namespace AttributeDefinition
open Scope AttributeRule
variable {html selector multiline : String} {outer inner : SelectorList} {body : Location}
  {rule : AttributeRule}

theorem filter_ofFragment (hbody : (Document.ofFragment html).body? = some body)
    (houter : SelectorList.read selector = .ok outer) :
    (Scope.ofFragment html).filter selector = .ok ⟨body.select outer⟩ := by
  rw [Scope.ofFragment, hbody, Scope.filter, houter]
  exact congrArg Except.ok (narrow_singleton body outer)

/-- A definition of HTML with lines resolves, if its selector matches, to the HTML of what each match
is the first to select. These are the elements that matches select, each of them once, and they are
in document order where the lines do not ask for the scope or no match is inside another. -/
theorem resolve_lines (hbody : (Document.ofFragment html).body? = some body)
    (hsource : rule.source = some .html) (hselector : rule.selector = some selector)
    (hmultiline : rule.multiline = some multiline)
    (houter : SelectorList.read selector = .ok outer)
    (hinner : SelectorList.read multiline = .ok inner)
    (hmatch : body.select outer ≠ []) (data : PostData)
    (query : Option (List (String × AttributeDefinition))) :
    ((mk rule query).resolve data (.ofFragment html)).outcome = .ok (some (.own (.str (htmlOf
      ((body.select outer).flatMap (firstSelected inner (body.select outer))))))) ∧
    ((body.select outer).flatMap (firstSelected inner (body.select outer))).Perm
      (selectedIn (Document.ofFragment html) inner (body.select outer)) ∧
    (inner.usesScope = false ∨
        (∀ n ∈ body.select outer, ∀ m ∈ body.select outer, m ∉ n.descendants) →
      (body.select outer).flatMap (firstSelected inner (body.select outer)) =
        selectedIn (Document.ofFragment html) inner (body.select outer)) := by
  have hfound := filter_ofFragment hbody houter
  have hin : IsIn (Document.ofFragment html) ⟨body.select outer⟩ := by
    obtain ⟨-, hnone⟩ | ⟨list, -, hnarrow⟩ := filter_eq_ok hfound
    · rw [hnone]
      exact isIn_ofFragment html
    · rw [hnarrow]
      exact (isIn_ofFragment html).narrow list
  have hordered := select_pairwise body outer
  have hlines : (narrow ⟨body.select outer⟩ inner).places =
      (body.select outer).flatMap (firstSelected inner (body.select outer)) :=
    narrow_eq_firstSelected hin hordered
  have hnarrow : (Scope.mk (body.select outer)).filter multiline =
      .ok (narrow ⟨body.select outer⟩ inner) := by
    rw [Scope.filter, if_neg (by simpa using hmatch), hinner]
    rfl
  refine ⟨?_, ?_, fun h => ?_⟩
  · have hfind : (rule.find data (.ofFragment html)).outcome = _ :=
      outcome_find_lines hsource hselector hmultiline hfound hmatch
    rw [hnarrow] at hfind
    change _ = Except.ok (some (Held.own (.str (htmlOf (narrow ⟨body.select outer⟩ inner).places)))) at hfind
    rw [hlines] at hfind
    have hquery : rule.source ≠ some .query := by simp [hsource]
    rw [resolve, if_neg hquery, Log.Noted.outcome_bind, hfind]
    rfl
  · rw [← hlines]
    exact narrow_perm_selectedIn hin
  · rw [← hlines]
    exact narrow_eq_selectedIn hin hordered h

/-- A quote inside a quote, each with a line of its own. -/
def quotes : String := "<blockquote><blockquote><p>a</p></blockquote><p>b</p></blockquote>"

/-- The lines of quotes. -/
def quoteLines (multiline : String) : AttributeRule :=
  ⟨some .html, some "blockquote", none, some multiline, none, .null, []⟩

theorem quotes_lines : ∃ outer inner, SelectorList.read "blockquote" = .ok outer ∧
    SelectorList.read "p" = .ok inner ∧ ∃ body, (Document.ofFragment quotes).body? = some body ∧
      ((mk (quoteLines "p") none).resolve ⟨.empty, none⟩ (.ofFragment quotes)).outcome =
        .ok (some (.own (.str
          (htmlOf (selectedIn (Document.ofFragment quotes) inner (body.select outer)))))) := by
  have hfacts : ((SelectorList.read "blockquote").toOption.any fun outer =>
      (SelectorList.read "p").toOption.any fun inner =>
        (Document.ofFragment quotes).body?.any fun body =>
          !(body.select outer).isEmpty && !inner.usesScope) = true := by
    decide +kernel
  obtain ⟨outer, houter, hfacts⟩ := (Option.any_eq_true _ _).mp hfacts
  obtain ⟨inner, hinner, hfacts⟩ := (Option.any_eq_true _ _).mp hfacts
  obtain ⟨body, hbody, hfacts⟩ := (Option.any_eq_true _ _).mp hfacts
  obtain ⟨hmatch, hfree⟩ := Bool.and_eq_true_iff.mp hfacts
  have houter := eq_ok_of_toOption houter
  have hinner := eq_ok_of_toOption hinner
  have hmatch : body.select outer ≠ [] := by simpa using hmatch
  have hsource : (quoteLines "p").source = some .html := rfl
  obtain ⟨hresolve, -, hordered⟩ := resolve_lines hbody hsource rfl rfl houter hinner hmatch
    ⟨.empty, none⟩ none
  rw [hordered (.inl (by simpa using hfree))] at hresolve
  exact ⟨outer, inner, houter, hinner, body, hbody, hresolve⟩

/-- A text that has been found. -/
def foundText? : Held → Option String
  | .own (.str text) => some text
  | _ => none

/-- Lines that ask for the scope: the line of the outer quote goes first, though it stands behind
that of the inner one. -/
theorem quotes_scoped_lines :
    ((((mk (quoteLines ":scope > p") none).resolve ⟨.empty, none⟩
      (.ofFragment quotes)).outcome.toOption.bind id).bind foundText?) =
        some "<p>b</p><p>a</p>" ∧
    (match SelectorList.read "blockquote", SelectorList.read ":scope > p",
      (Document.ofFragment quotes).body? with
      | .ok outer, .ok inner, some body =>
        some (htmlOf (selectedIn (Document.ofFragment quotes) inner (body.select outer)))
      | _, _, _ => none) = some "<p>a</p><p>b</p>" := by
  decide +kernel

end AttributeDefinition
end EditorBlocks
