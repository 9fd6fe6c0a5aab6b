import EditorBlocks.Proofs.Attribute.Fallback
import EditorBlocks.Proofs.Markup.Outline
/-! Contents of a match: as the source for children tells them they are what the source for nodes
tells of the match, unless there is no element among them. Then they are one text. -/

namespace EditorBlocks

namespace Node

def isComment : Node → Bool
  | comment _ => true
  | _ => false

theorem outlines_eq_filterMap (ns : List Node) : outlines ns = ns.filterMap outline? := by
  induction ns with
  | nil => rfl
  | cons n rest ih =>
    rw [outlines, ih, List.filterMap_cons]
    cases n.outline? <;> rfl

theorem nothing_of_comments {ns : List Node} (h : ns.all isComment) :
    ns.any isElement = false ∧ textCharsOfList ns = [] := by
  induction ns with
  | nil => exact ⟨rfl, rfl⟩
  | cons n rest ih =>
    rw [List.all_cons, Bool.and_eq_true] at h
    cases n with
    | comment data => exact ih h.2
    | element | text => cases h.1

/-- An element shows all text inside it, unless its text is set apart. -/
theorem textContent_eq_iff (tag : Tag) (children : List Node) :
    (element tag children).textContent = String.ofList (textCharsOfList children) ↔
      hasSeparateText tag = false ∨ textCharsOfList children = [] := by
  rw [textContent]
  by_cases htag : hasSeparateText tag
  · rw [if_pos htag, htag, ← String.ofList_nil, String.ofList_inj, eq_comm]
    simp
  · simp [htag]

end Node

namespace Location

theorem isElement_inside (parent : Location) (before after : List Node) (node : Node) :
    (inside parent before node after).isElement = node.isElement := by
  cases node <;> rfl

theorem childNodes_of_node? {l : Location} {node : Node} (h : l.node? = some node) :
    l.childNodes = node.children := by
  cases l with
  | top => cases h
  | inside parent before here after =>
    cases h
    rfl

/-- Among the places directly inside there is an element exactly if there is one among the nodes. -/
theorem any_children_isElement (l : Location) :
    l.children.any (·.isElement) = l.childNodes.any Node.isElement := by
  rw [Bool.eq_iff_iff, List.any_eq_true, List.any_eq_true]
  constructor
  · rintro ⟨c, hc, helement⟩
    obtain ⟨before, node, after, hnodes, rfl⟩ := mem_children.mp hc
    rw [isElement_inside] at helement
    exact ⟨node, by simp [hnodes], helement⟩
  · rintro ⟨node, hnode, helement⟩
    obtain ⟨before, after, hnodes⟩ := List.append_of_mem hnode
    refine ⟨inside l before.reverse node after, mem_children.mpr ⟨_, _, _, ?_, rfl⟩, ?_⟩
    · rw [hnodes, List.reverse_reverse]
    · rwa [isElement_inside]

end Location

namespace Scope
variable {s : Scope} {first : Location}

theorem count_children_eq_zero_iff (h : s.first? = some first) :
    s.children.count = 0 ↔ first.childNodes.any Node.isElement = false := by
  rw [count, children, h, Option.map_some, Option.getD_some, List.length_eq_zero_iff,
    List.filter_eq_nil_iff, ← Location.any_children_isElement, List.any_eq_false]

end Scope

namespace AttributeRule
variable {s : Scope} {first : Location} {tag : Tag} {nodes : List Node}

theorem contentItems_of_none (h : s.first? = none) : contentItems s = [] :=
  if_pos (Scope.count_eq_zero_iff.mpr h)

/-- If there is an element among the contents, they are the outlines that the match itself has. -/
theorem contentItems_of_elements (hfirst : s.first? = some first)
    (hnode : first.node? = some (.element tag nodes)) (h : nodes.any Node.isElement) :
    contentItems s = Node.outlines nodes := by
  have hnodes : first.childNodes = nodes := Location.childNodes_of_node? hnode
  have hcount : s.count ≠ 0 := by
    rw [ne_eq, Scope.count_eq_zero_iff, hfirst]
    exact Option.some_ne_none _
  have hchildren : s.children.count ≠ 0 := by
    rw [ne_eq, Scope.count_children_eq_zero_iff hfirst, hnodes, h]
    exact Bool.noConfusion
  rw [contentItems, if_neg hcount, if_neg hchildren, Scope.childNodes, hfirst, Option.map_some,
    Option.getD_some, hnodes, Node.outlines_eq_filterMap]

theorem contentItems_of_text (hfirst : s.first? = some first)
    (hnode : first.node? = some (.element tag nodes)) (h : nodes.any Node.isElement = false) :
    contentItems s = [.str (Node.element tag nodes).textContent] := by
  have hnodes : first.childNodes = nodes := Location.childNodes_of_node? hnode
  have hcount : s.count ≠ 0 := by
    rw [ne_eq, Scope.count_eq_zero_iff, hfirst]
    exact Option.some_ne_none _
  have hchildren : s.children.count = 0 := by
    rwa [Scope.count_children_eq_zero_iff hfirst, hnodes]
  rw [contentItems, if_neg hcount, if_pos hchildren, Scope.rawText?, hfirst, Option.bind_some, hnode]
  rfl

end AttributeRule

namespace AttributeDefinition
variable {data : PostData} {html : String} {s matched : Scope} {d : AttributeDefinition}
  {first : Location} {tag : Tag} {nodes : List Node}

/-- The definition with another source. -/
def withSource (source : AttributeSource) : AttributeDefinition → AttributeDefinition
  | mk rule query => mk { rule with source := some source } query

theorem resolve_withSource_children : (d.withSource .children).resolve data s = (do
    let matched ← s.narrowedBy d.rule.selector
    pure (some (.own (.list (AttributeRule.contentItems matched))))) := by
  obtain ⟨rule, query⟩ := d
  rw [withSource, resolve, if_neg (by simp)]
  simp only [AttributeRule.find, bind_assoc, pure_bind]
  rfl

theorem resolve_withSource_node : (d.withSource .node).resolve data s = (do
    let matched ← s.narrowedBy d.rule.selector
    let outline := (matched.first?.bind (·.node?)).bind (·.outline?)
    pure ((outline.map .own).or d.rule.fallbackValue)) := by
  obtain ⟨rule, query⟩ := d
  rw [withSource, resolve, if_neg (by simp)]
  simp only [AttributeRule.find, bind_assoc, pure_bind]
  rfl

/-- The items that are told for the children of an element, beside the outline of the element. -/
structure AreContents (tag : Tag) (nodes : List Node) (outline : Value) (items : List Value) :
    Prop where
  elements : nodes.any Node.isElement → outline.member? "children" = some (.list items)
  text : nodes.any Node.isElement = false → items = [.str (Node.element tag nodes).textContent]
  /-- One text is all the text inside, unless it is set apart. -/
  verbatim : nodes.any Node.isElement = false →
    (items = [.str (String.ofList (Node.textCharsOfList nodes))] ↔
      Node.hasSeparateText tag = false ∨ Node.textCharsOfList nodes = [])
  comments : nodes.all Node.isComment → items = [.str ""]

theorem areContents (hfirst : matched.first? = some first)
    (hnode : first.node? = some (.element tag nodes)) {outline : Value}
    (houtline : (Node.element tag nodes).outline? = some outline) :
    AreContents tag nodes outline (AttributeRule.contentItems matched) where
  elements h := by
    rw [Node.outline?, Option.some_inj] at houtline
    rw [AttributeRule.contentItems_of_elements hfirst hnode h, ← houtline]
    rfl
  text h := AttributeRule.contentItems_of_text hfirst hnode h
  verbatim h := by
    rw [AttributeRule.contentItems_of_text hfirst hnode h, ← Node.textContent_eq_iff]
    simp
  comments h := by
    obtain ⟨hnone, hempty⟩ := Node.nothing_of_comments h
    rw [AttributeRule.contentItems_of_text hfirst hnode hnone,
      (Node.textContent_eq_iff tag nodes).mpr (.inr hempty), hempty, String.ofList_nil]

/-- What the sources for children and for nodes tell of the first match. Both fail alike if the
selector cannot be read. Without a match there are no children, and the node is the fallback. With an
element among its contents the children are those of the node. Without one they are one text, which is
empty if there is none: all the text of the match as it stands, unless the match is one of the elements
whose text is set apart. -/
theorem resolve_children (hs : s.Reached (fun _ => True) html) (d : AttributeDefinition)
    (data : PostData) :
    (∀ e, (s.narrowedBy d.rule.selector).outcome = .error e →
      ((d.withSource .children).resolve data s).outcome = .error e ∧
      ((d.withSource .node).resolve data s).outcome = .error e) ∧
    ∀ matched, (s.narrowedBy d.rule.selector).outcome = .ok matched → ∃ items found,
      ((d.withSource .children).resolve data s).outcome = .ok (some (.own (.list items))) ∧
      ((d.withSource .node).resolve data s).outcome = .ok found ∧
      (matched.first? = none → items = [] ∧ found = d.rule.fallbackValue) ∧
      ∀ first, matched.first? = some first → ∃ tag nodes outline,
        first.node? = some (.element tag nodes) ∧ found = some (.own outline) ∧
        AreContents tag nodes outline items := by
  rw [resolve_withSource_children, resolve_withSource_node, Log.Noted.outcome_bind,
    Log.Noted.outcome_bind]
  refine ⟨fun e he => ?_, fun matched hmatched => ?_⟩
  · rw [he]
    exact ⟨rfl, rfl⟩
  rw [hmatched]
  refine ⟨_, _, rfl, rfl, fun hnone => ?_, fun first hfirst => ?_⟩
  · rw [AttributeRule.contentItems_of_none hnone, hnone]
    exact ⟨rfl, rfl⟩
  · obtain ⟨tag, nodes, hnode, -⟩ := (hs.narrowedBy hmatched).first_element hfirst
    obtain ⟨o, houtline, -⟩ := Node.exists_outline_element tag nodes
    refine ⟨tag, nodes, _, hnode, ?_, areContents hfirst hnode houtline⟩
    rw [hfirst, Option.bind_some, hnode, Option.bind_some, houtline]
    rfl

/-- The contents of what a selector finds. -/
def ofContents (selector : String) : AttributeDefinition :=
  mk ⟨some .children, some selector, none, none, none, .null, []⟩ none

/-- A paragraph in pieces, and a list with a blank between its items. -/
def leaflet : String := "<p> to <!-- --> be </p><ul><li>1</li> <li>2</li></ul>"

/-- The node of the first match that a selector has in a fragment. -/
def firstNode? (fragment selector : String) : Option Node :=
  ((Scope.ofFragment fragment).firstMatch? (some selector)).bind (·.node?)

theorem exists_matched {fragment selector : String} {node : Node}
    (h : firstNode? fragment selector = some node) : ∃ matched first,
      ((Scope.ofFragment fragment).narrowedBy (some selector)).outcome = .ok matched ∧
      matched.first? = some first ∧ first.node? = some node := by
  obtain ⟨first, hfirst, hnode⟩ := Option.bind_eq_some_iff.mp h
  obtain ⟨matched, hmatched, hfirst⟩ := Option.bind_eq_some_iff.mp hfirst
  exact ⟨matched, first, Scope.eq_ok_of_toOption hmatched, hfirst, hnode⟩

theorem leaflet_contents :
    (∃ items outline, ((ofContents "ul").resolve ⟨.empty, none⟩ (.ofFragment leaflet)).outcome =
        .ok (some (.own (.list items))) ∧
      (((ofContents "ul").withSource .node).resolve ⟨.empty, none⟩
        (.ofFragment leaflet)).outcome = .ok (some (.own outline)) ∧
      outline.member? "children" = some (.list items)) ∧
    ((ofContents "p").resolve ⟨.empty, none⟩ (.ofFragment leaflet)).outcome =
      .ok (some (.own (.list [.str " to  be "]))) := by
  have hlist : (firstNode? leaflet "ul").any (fun node => node.children.any Node.isElement) := by
    decide +kernel
  have hparagraph : (firstNode? leaflet "p").any (fun node =>
      !node.children.any Node.isElement && node.textContent == " to  be ") := by
    decide +kernel
  refine ⟨?_, ?_⟩
  · obtain ⟨node, hnode, helements⟩ := (Option.any_eq_true _ _).mp hlist
    obtain ⟨matched, first, hmatched, hfirst, hnode⟩ := exists_matched hnode
    obtain ⟨items, found, hchildren, hfound, -, h⟩ :=
      (resolve_children .fragment (ofContents "ul") ⟨.empty, none⟩).2 matched hmatched
    obtain ⟨tag, nodes, outline, hnode', rfl, hitems⟩ := h first hfirst
    cases hnode.symm.trans hnode'
    exact ⟨items, outline, hchildren, hfound, hitems.elements helements⟩
  · obtain ⟨node, hnode, hfacts⟩ := (Option.any_eq_true _ _).mp hparagraph
    obtain ⟨matched, first, hmatched, hfirst, hnode⟩ := exists_matched hnode
    obtain ⟨items, found, hchildren, -, -, h⟩ :=
      (resolve_children .fragment (ofContents "p") ⟨.empty, none⟩).2 matched hmatched
    obtain ⟨tag, nodes, outline, hnode', -, hitems⟩ := h first hfirst
    cases hnode.symm.trans hnode'
    simp only [Bool.and_eq_true, Bool.not_eq_true', beq_iff_eq] at hfacts
    have htext := hitems.text hfacts.1
    rw [hfacts.2] at htext
    exact htext ▸ hchildren

/-- The text of an element with nothing else inside. -/
def onlyText? : Node → Option (Tag × String)
  | .element tag [.text data] => some (tag, data)
  | _ => none

theorem eq_of_onlyText? {node : Node} {data : String} (h : onlyText? node = some (tag, data)) :
    node = .element tag [.text data] := by
  unfold onlyText? at h
  split at h <;> simp_all

/-- A script has its text inside, but shows none when asked, so that its contents are an empty text. -/
theorem scriptContents_lost : ∃ tag,
    firstNode? "<script>x</script>" "script" = some (.element tag [.text "x"]) ∧
    ((ofContents "script").resolve ⟨.empty, none⟩ (.ofFragment "<script>x</script>")).outcome =
      .ok (some (.own (.list [.str ""]))) := by
  have hfacts : ((firstNode? "<script>x</script>" "script").bind onlyText?).any (fun found =>
      Node.hasSeparateText found.1 && found.2 == "x") := by
    decide +kernel
  obtain ⟨⟨tag, data⟩, hfound, hfacts⟩ := (Option.any_eq_true _ _).mp hfacts
  obtain ⟨node, hnode, htext⟩ := Option.bind_eq_some_iff.mp hfound
  simp only [Bool.and_eq_true, beq_iff_eq] at hfacts
  obtain ⟨hseparate, rfl⟩ := hfacts
  rw [eq_of_onlyText? htext] at hnode
  obtain ⟨matched, first, hmatched, hfirst, hnode'⟩ := exists_matched hnode
  refine ⟨tag, hnode, ?_⟩
  change (((ofContents "script").withSource .children).resolve _ _).outcome = _
  rw [resolve_withSource_children, Log.Noted.outcome_bind]
  change (Scope.narrowedBy _ (some "script")).outcome >>= _ = _
  rw [hmatched]
  have hitems := AttributeRule.contentItems_of_text hfirst hnode' rfl
  rw [Node.textContent, if_pos hseparate] at hitems
  exact congrArg (fun items => Except.ok (some (Held.own (.list items)))) hitems

end AttributeDefinition

end EditorBlocks
