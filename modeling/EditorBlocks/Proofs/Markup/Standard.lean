import EditorBlocks.Markup.Scope
import EditorBlocks.Proofs.Markup.Escaping
/-! Nodes written as the standard has it, where names count in the vocabulary of HTML only, and the
elements that are written so. -/

namespace EditorBlocks.Markup

/-! ### The standard -/

namespace Standard

/-- Text escaped by replacements one after the other, the ampersand first. -/
def escapedText (cs : List Char) : List Char :=
  replacing '>' "&gt;" (replacing '<' "&lt;" (replacing '\xa0' "&nbsp;" (replacing '&' "&amp;" cs)))

/-- A value escaped so. -/
def escapedValue (cs : List Char) : List Char :=
  replacing '"' "&quot;" (replacing '\xa0' "&nbsp;" (replacing '&' "&amp;" cs))

theorem escapedText_eq (cs : List Char) : escapedText cs = escapeTextChars cs := rfl

theorem escapedValue_eq (cs : List Char) : escapedValue cs = escapeValueChars cs := rfl

/-- Elements without an end tag. -/
def voidNames : List String := [
  "area", "base", "br", "col", "embed", "hr", "img", "input", "link", "meta", "source", "track",
  "wbr", "basefont", "bgsound", "frame", "keygen", "param"]

/-- Elements whose own text is written as it is. -/
def rawNames : List String := [
  "style", "script", "xmp", "iframe", "noembed", "noframes", "plaintext"]

def isVoid (tag : Tag) : Bool := tag.vocabulary = .html && voidNames.contains tag.name

def isRaw (tag : Tag) : Bool := tag.vocabulary = .html && rawNames.contains tag.name

def attributeChars (entry : String × String) : List Char :=
  ' ' :: (entry.1.toList ++ '=' :: '"' :: (escapedValue entry.2.toList ++ ['"']))

def startTagChars (tag : Tag) : List Char :=
  '<' :: (tag.name.toList ++ tag.attributes.flatMap attributeChars ++ ['>'])

def endTagChars (tag : Tag) : List Char := "</".toList ++ tag.name.toList ++ ">".toList

theorem endTagChars_eq (tag : Tag) : endTagChars tag = Markup.endTagChars tag := rfl

mutual
/-- A node as the standard writes it; `raw` says that its parent keeps text as it is. -/
def nodeChars (raw : Bool) : Node → List Char
  | .text data => if raw then data.toList else escapedText data.toList
  | .comment data => "<!--".toList ++ data.toList ++ "-->".toList
  | .element tag children =>
    startTagChars tag ++ nodesChars (isRaw tag) children
      ++ (if isVoid tag then [] else endTagChars tag)

def nodesChars (raw : Bool) : List Node → List Char
  | [] => []
  | node :: rest => nodeChars raw node ++ nodesChars raw rest
end

def innerHtml : Node → String
  | .element tag children => String.ofList (nodesChars (isRaw tag) children)
  | _ => ""

def outerHtml (node : Node) : String := String.ofList (nodeChars false node)

end Standard

/-! ### Elements that are written so -/

def isPlainText : Node → Bool
  | .text data => escapeTextChars data.toList == data.toList
  | _ => true

/-- An element that is written as the standard has it, as far as it goes itself: no value is replaced,
its end tag is left out exactly if it is void, and its own text is escaped exactly if the standard
says so, or has nothing to escape. -/
def isOrdinary : Node → Bool
  | .element tag children =>
    (tag.attributes.all fun a => printedValue tag a.1 a.2 == a.2)
      && (children.isEmpty && isVoid tag) == Standard.isVoid tag
      && (isLiteral tag == Standard.isRaw tag || children.all isPlainText)
  | _ => true

end Markup

namespace Node

mutual
/-- The elements of a tree in document order. -/
def elements : Node → List Node
  | element tag children => element tag children :: elementsOfList children
  | _ => []

def elementsOfList : List Node → List Node
  | [] => []
  | node :: rest => elements node ++ elementsOfList rest
end

theorem elements_subset_of_mem {n : Node} {ns : List Node} (h : n ∈ ns) :
    n.elements ⊆ elementsOfList ns := by
  induction ns with
  | nil => cases h
  | cons m rest ih =>
    rw [elementsOfList]
    rcases List.mem_cons.mp h with rfl | h
    · exact List.subset_append_left _ _
    · exact List.subset_append_of_subset_right _ (ih h)

end Node

namespace Markup
variable {tag : Tag} {children : List Node}

/-- From the text of attributes the values can be told, up to the end of the start tag. -/
theorem attributes_append_inj {values others : String × String → String}
    (as : List (String × String)) {x y : List Char}
    (h : (as.flatMap fun a => Standard.attributeChars (a.1, values a)) ++ '>' :: x =
      (as.flatMap fun a => Standard.attributeChars (a.1, others a)) ++ '>' :: y) :
    (∀ a ∈ as, values a = others a) ∧ x = y := by
  induction as with
  | nil => exact ⟨fun _ ha => (List.not_mem_nil ha).elim, (List.cons.inj h).2⟩
  | cons a rest ih =>
    simp only [List.flatMap_cons, Standard.attributeChars, Standard.escapedValue_eq,
      List.cons_append, List.append_assoc, List.cons.injEq, List.append_cancel_left_eq, true_and,
      List.nil_append] at h ih
    obtain ⟨hvalue, hrest⟩ := escapeValueChars_append_inj h
    obtain ⟨hvalues, hxy⟩ := ih hrest
    exact ⟨List.forall_mem_cons.mpr ⟨String.toList_inj.mp hvalue, hvalues⟩, hxy⟩

/-- An attribute is written as the standard has it, with the value that is printed. -/
theorem attributeChars_eq (tag : Tag) : attributeChars tag =
    fun a => Standard.attributeChars (a.1, printedValue tag a.1 a.2) := by
  funext a
  rw [attributeChars, Standard.attributeChars, Standard.escapedValue_eq]

theorem startTagChars_append_inj {x y : List Char}
    (h : startTagChars tag ++ x = Standard.startTagChars tag ++ y) :
    (∀ a ∈ tag.attributes, printedValue tag a.1 a.2 = a.2) ∧ x = y := by
  simp only [startTagChars, Standard.startTagChars, attributeChars_eq, List.cons_append,
    List.append_assoc, List.cons.injEq, List.append_cancel_left_eq, true_and, List.nil_append] at h
  exact attributes_append_inj tag.attributes h

theorem startTagChars_eq (h : ∀ a ∈ tag.attributes, printedValue tag a.1 a.2 = a.2) :
    startTagChars tag = Standard.startTagChars tag := by
  have hattributes : tag.attributes.flatMap (attributeChars tag) =
      tag.attributes.flatMap Standard.attributeChars := by
    rw [attributeChars_eq, List.flatMap_def, List.flatMap_def, List.map_congr_left]
    intro a ha
    rw [h a ha]
  rw [startTagChars, Standard.startTagChars, hattributes]

theorem nodeChars_of_isElement {n : Node} (h : n.isElement) (literal : Bool) :
    nodeChars literal n = nodeChars false n := by
  cases n with
  | element tag children => rw [nodeChars, nodeChars]
  | _ => cases h

theorem Standard.nodeChars_of_isElement {n : Node} (h : n.isElement) (raw : Bool) :
    nodeChars raw n = nodeChars false n := by
  cases n with
  | element tag children => rw [nodeChars, nodeChars]
  | _ => cases h

/-- With text treated alike, nodes are written alike if the elements among them are. -/
theorem nodesChars_eq {ns : List Node} (literal : Bool)
    (h : ∀ n ∈ ns, n.isElement → nodeChars false n = Standard.nodeChars false n) :
    nodesChars literal ns = Standard.nodesChars literal ns := by
  induction ns with
  | nil => rfl
  | cons n rest ih =>
    obtain ⟨hn, hrest⟩ := List.forall_mem_cons.mp h
    have hfirst : nodeChars literal n = Standard.nodeChars literal n := by
      cases n with
      | element tag children =>
        rw [nodeChars_of_isElement rfl, Standard.nodeChars_of_isElement rfl, hn rfl]
      | text data => rw [nodeChars, Standard.nodeChars, Standard.escapedText_eq]
      | comment data => rw [nodeChars, Standard.nodeChars]
    rw [nodesChars, Standard.nodesChars, hfirst, ih hrest]

/-- Text that is kept is shorter than escaped text, or there is nothing to escape. -/
theorem Standard.length_nodesChars (ns : List Node) :
    (nodesChars true ns).length < (nodesChars false ns).length ∧ ¬ns.all isPlainText ∨
    nodesChars true ns = nodesChars false ns ∧ ns.all isPlainText := by
  induction ns with
  | nil => exact .inr ⟨rfl, rfl⟩
  | cons n rest ih =>
    have hn : (nodeChars true n).length < (nodeChars false n).length ∧ ¬isPlainText n ∨
        nodeChars true n = nodeChars false n ∧ isPlainText n := by
      cases n with
      | element tag children => exact .inr ⟨Standard.nodeChars_of_isElement rfl true, rfl⟩
      | comment data => exact .inr ⟨by rw [nodeChars, nodeChars], rfl⟩
      | text data =>
        rw [nodeChars, nodeChars, if_pos rfl, if_neg Bool.false_ne_true, escapedText_eq, isPlainText,
          beq_iff_eq]
        obtain h | h := length_escapeTextChars data.toList
        · exact .inl ⟨h, fun h' => by rw [h'] at h; exact Nat.lt_irrefl _ h⟩
        · exact .inr ⟨h.symm, h⟩
    rw [nodesChars, nodesChars, List.length_append, List.length_append, List.all_cons,
      Bool.and_eq_true]
    obtain ⟨hlt, hplain⟩ | ⟨heq, hplain⟩ := hn <;>
      obtain ⟨hlt', hplain'⟩ | ⟨heq', hplain'⟩ := ih
    · exact .inl ⟨by omega, fun h => hplain h.1⟩
    · exact .inl ⟨by rw [heq']; omega, fun h => hplain h.1⟩
    · exact .inl ⟨by rw [heq]; omega, fun h => hplain' h.2⟩
    · exact .inr ⟨by rw [heq, heq'], hplain, hplain'⟩

theorem Standard.nodesChars_eq_iff (ns : List Node) (literal raw : Bool) :
    nodesChars literal ns = nodesChars raw ns ↔ (literal == raw || ns.all isPlainText) := by
  obtain ⟨hlt, hplain⟩ | ⟨heq, hplain⟩ := Standard.length_nodesChars ns
  · have hne : nodesChars true ns ≠ nodesChars false ns := fun h => by
      rw [h] at hlt
      exact Nat.lt_irrefl _ hlt
    rw [Bool.eq_false_iff.mpr hplain]
    cases literal <;> cases raw <;> simp [hne, hne.symm]
  · cases literal <;> cases raw <;> simp [heq, hplain]

/-- Void elements have no text of their own to keep, by either account. -/
theorem Standard.isRaw_of_isVoid (h : isVoid tag) : isRaw tag = isLiteral tag := by
  obtain ⟨-, hname⟩ := Bool.and_eq_true_iff.mp h
  have hraw : ∀ name ∈ voidNames, rawNames.contains name = false ∧
      literalNames.contains name = false := by decide
  obtain ⟨hraw, hliteral⟩ := hraw tag.name (List.contains_iff_mem.mp hname)
  rw [isRaw, isLiteral, hraw, hliteral, Bool.and_false]

/-- What follows the start tag is written as the standard has it exactly if the end tag and the text
of the element are. -/
theorem afterStartTag_eq_iff :
    (if children.isEmpty && isVoid tag then []
      else Standard.nodesChars (isLiteral tag) children ++ endTagChars tag) =
      Standard.nodesChars (Standard.isRaw tag) children
        ++ (if Standard.isVoid tag then [] else Standard.endTagChars tag) ↔
    (children.isEmpty && isVoid tag) == Standard.isVoid tag ∧
      (isLiteral tag == Standard.isRaw tag || children.all isPlainText) := by
  have hend : endTagChars tag ≠ [] := fun h => by cases h
  rw [Standard.endTagChars_eq]
  cases hbare : children.isEmpty && isVoid tag with
  | true =>
    obtain ⟨hempty, -⟩ := Bool.and_eq_true_iff.mp hbare
    obtain rfl := List.isEmpty_iff.mp hempty
    cases Standard.isVoid tag <;> simp [Standard.nodesChars, hend.symm]
  | false =>
    cases hvoid : Standard.isVoid tag with
    | true =>
      rw [Standard.isRaw_of_isVoid hvoid]
      simp [hend]
    | false => simp [Standard.nodesChars_eq_iff]

/-- An element whose inner elements are written as the standard has it is so itself exactly if it is
ordinary. -/
theorem nodeChars_eq_iff
    (h : ∀ n ∈ children, n.isElement → nodeChars false n = Standard.nodeChars false n) :
    nodeChars false (.element tag children) = Standard.nodeChars false (.element tag children) ↔
      isOrdinary (.element tag children) := by
  have hwritten : nodeChars false (.element tag children) = startTagChars tag ++
      (if children.isEmpty && isVoid tag then []
        else Standard.nodesChars (isLiteral tag) children ++ endTagChars tag) := by
    rw [nodeChars, nodesChars_eq (isLiteral tag) h]
    split
    · rw [List.append_nil]
    · rw [List.append_assoc]
  have hordinary : isOrdinary (.element tag children) ↔
      (∀ a ∈ tag.attributes, printedValue tag a.1 a.2 = a.2) ∧
        (children.isEmpty && isVoid tag) == Standard.isVoid tag ∧
        (isLiteral tag == Standard.isRaw tag || children.all isPlainText) := by
    rw [isOrdinary, Bool.and_assoc, Bool.and_eq_true, Bool.and_eq_true, List.all_eq_true]
    simp only [beq_iff_eq]
  rw [hwritten, Standard.nodeChars, List.append_assoc, hordinary, ← afterStartTag_eq_iff]
  constructor
  · exact startTagChars_append_inj
  · rintro ⟨hvalues, hafter⟩
    rw [startTagChars_eq hvalues, hafter]

mutual
theorem elements_eq_iff : ∀ n : Node,
    (∀ e ∈ n.elements, nodeChars false e = Standard.nodeChars false e) ↔
      ∀ e ∈ n.elements, isOrdinary e
  | .element tag children => by
    have hinner := elementsOfList_eq_iff children
    rw [Node.elements, List.forall_mem_cons, List.forall_mem_cons, ← hinner]
    refine and_congr_left fun h => nodeChars_eq_iff fun n hn he => h n ?_
    cases n with
    | element tag' children' =>
      exact Node.elements_subset_of_mem hn (by rw [Node.elements]; exact List.mem_cons_self)
    | _ => cases he
  | .text _ => by simp [Node.elements]
  | .comment _ => by simp [Node.elements]

theorem elementsOfList_eq_iff : ∀ ns : List Node,
    (∀ e ∈ Node.elementsOfList ns, nodeChars false e = Standard.nodeChars false e) ↔
      ∀ e ∈ Node.elementsOfList ns, isOrdinary e
  | [] => by simp [Node.elementsOfList]
  | n :: rest => by
    rw [Node.elementsOfList, List.forall_mem_append, List.forall_mem_append, elements_eq_iff n,
      elementsOfList_eq_iff rest]
end

/-- Elements that the format takes for void, though the standard does not know them as such. -/
def strangeVoidNames : List String := ["menuitem", "command", "image", "isindex", "nextid", "spacer"]

/-- Elements that the standard takes for raw, whose text the format escapes. -/
def escapedRawNames : List String := ["xmp", "iframe", "noembed", "noframes", "plaintext"]

theorem isVoid_iff : isVoid tag ↔ tag.name ∈ Standard.voidNames ∨ tag.name ∈ strangeVoidNames := by
  have hsplit : ∀ name ∈ voidNames, name ∈ Standard.voidNames ∨ name ∈ strangeVoidNames := by decide
  have hstandard : ∀ name ∈ Standard.voidNames, name ∈ voidNames := by decide
  have hstrange : ∀ name ∈ strangeVoidNames, name ∈ voidNames := by decide
  rw [isVoid, List.contains_iff_mem]
  exact ⟨hsplit _, fun h => h.elim (hstandard _) (hstrange _)⟩

theorem not_strange_of_isVoid : ∀ name ∈ Standard.voidNames, name ∉ strangeVoidNames := by decide

theorem isVoid_ne_iff : isVoid tag ≠ Standard.isVoid tag ↔
    tag.vocabulary ≠ .html ∧ tag.name ∈ Standard.voidNames ∨ tag.name ∈ strangeVoidNames := by
  have hdisjoint := not_strange_of_isVoid tag.name
  rw [ne_eq, Bool.eq_iff_iff, isVoid_iff, Standard.isVoid, Bool.and_eq_true, decide_eq_true_iff,
    List.contains_iff_mem]
  grind

theorem isLiteral_ne_isRaw_iff : isLiteral tag ≠ Standard.isRaw tag ↔
    tag.vocabulary = .html ∧ tag.name ∈ escapedRawNames ∨
      tag.vocabulary ≠ .html ∧ tag.name ∈ literalNames := by
  have hsplit : ∀ name ∈ Standard.rawNames, name ∈ literalNames ∨ name ∈ escapedRawNames := by decide
  have hliteral : ∀ name ∈ literalNames, name ∈ Standard.rawNames ∧ name ∉ escapedRawNames := by
    decide
  have hescaped : ∀ name ∈ escapedRawNames, name ∈ Standard.rawNames := by decide
  have hsplit := hsplit tag.name
  have hliteral := hliteral tag.name
  have hescaped := hescaped tag.name
  rw [ne_eq, Bool.eq_iff_iff, isLiteral, Standard.isRaw, Bool.and_eq_true, decide_eq_true_iff,
    List.contains_iff_mem, List.contains_iff_mem]
  grind

/-- How an element can fail to be ordinary: an encoding in it is replaced; it is foreign, or of a name
that only the format takes for void, and its end tag is left out; it is void, though it has content;
or its own text has characters to escape, and it is raw for the standard only, or foreign with the
name of a raw element. -/
theorem not_isOrdinary_iff : ¬isOrdinary (.element tag children) ↔
    (∃ a ∈ tag.attributes, printedValue tag a.1 a.2 ≠ a.2) ∨
    (children = [] ∧ (tag.vocabulary ≠ .html ∧ tag.name ∈ Standard.voidNames ∨
      tag.name ∈ strangeVoidNames)) ∨
    (children ≠ [] ∧ tag.vocabulary = .html ∧ tag.name ∈ Standard.voidNames) ∨
    (¬children.all isPlainText ∧ (tag.vocabulary = .html ∧ tag.name ∈ escapedRawNames ∨
      tag.vocabulary ≠ .html ∧ tag.name ∈ literalNames)) := by
  have hvalues : ¬(tag.attributes.all fun a => printedValue tag a.1 a.2 == a.2) ↔
      ∃ a ∈ tag.attributes, printedValue tag a.1 a.2 ≠ a.2 := by simp
  have hend : ¬(children.isEmpty && isVoid tag) == Standard.isVoid tag ↔
      (children = [] ∧ (tag.vocabulary ≠ .html ∧ tag.name ∈ Standard.voidNames ∨
        tag.name ∈ strangeVoidNames)) ∨
      (children ≠ [] ∧ tag.vocabulary = .html ∧ tag.name ∈ Standard.voidNames) := by
    cases children with
    | nil => simpa using isVoid_ne_iff
    | cons n rest => simp [Standard.isVoid]
  have htext : ¬(isLiteral tag == Standard.isRaw tag || children.all isPlainText) ↔
      ¬children.all isPlainText ∧ (tag.vocabulary = .html ∧ tag.name ∈ escapedRawNames ∨
        tag.vocabulary ≠ .html ∧ tag.name ∈ literalNames) := by
    rw [← isLiteral_ne_isRaw_iff, Bool.or_eq_true, not_or, beq_iff_eq, and_comm]
  rw [isOrdinary, Bool.and_assoc, Bool.and_eq_true, Bool.and_eq_true,
    Decidable.not_and_iff_not_or_not, Decidable.not_and_iff_not_or_not, hvalues, hend, htext,
    or_assoc]

theorem innerHtml_eq {n : Node} (h : ∀ e ∈ n.elements, isOrdinary e) :
    innerHtml n = Standard.innerHtml n := by
  cases n with
  | element tag children =>
    have hself := h _ (by rw [Node.elements]; exact List.mem_cons_self)
    have hinside := (elementsOfList_eq_iff children).mpr fun e he =>
      h e (by rw [Node.elements]; exact List.mem_cons_of_mem _ he)
    have hchildren := nodesChars_eq (isLiteral tag) fun n hn he => hinside n (by
      cases n with
      | element tag' children' =>
        exact Node.elements_subset_of_mem hn (by rw [Node.elements]; exact List.mem_cons_self)
      | _ => cases he)
    rw [isOrdinary, Bool.and_eq_true] at hself
    rw [innerHtml, Standard.innerHtml, hchildren, (Standard.nodesChars_eq_iff ..).mpr hself.2]
  | _ => rfl

theorem outerHtml_eq_iff (n : Node) : outerHtml n = Standard.outerHtml n ↔
    nodeChars false n = Standard.nodeChars false n :=
  String.ofList_inj

end Markup

/-- In a tree all elements are written as the standard has it exactly if all are ordinary; then what
a scope gives as the inner and the outer HTML of a tree is as the standard has it. Ordinary are the
elements for which the list of void names, the list of raw names and the encodings of the format make
no difference. -/
theorem Scope.html_standard_iff (root : Node) :
    ((∀ e ∈ root.elements, Markup.outerHtml e = Markup.Standard.outerHtml e) ↔
      ∀ e ∈ root.elements, Markup.isOrdinary e) ∧
    (∀ s : Scope, s.first?.bind (·.node?) = some root →
      (∀ e ∈ root.elements, Markup.isOrdinary e) →
      s.innerHtml? = some (Markup.Standard.innerHtml root) ∧
        (root.isElement → s.outerHtml? = some (Markup.Standard.outerHtml root))) ∧
    ∀ (tag : Tag) (children : List Node), ¬Markup.isOrdinary (.element tag children) ↔
      (∃ a ∈ tag.attributes, Markup.printedValue tag a.1 a.2 ≠ a.2) ∨
      (children = [] ∧ (tag.vocabulary ≠ .html ∧ tag.name ∈ Markup.Standard.voidNames ∨
        tag.name ∈ Markup.strangeVoidNames)) ∨
      (children ≠ [] ∧ tag.vocabulary = .html ∧ tag.name ∈ Markup.Standard.voidNames) ∨
      (¬children.all Markup.isPlainText ∧
        (tag.vocabulary = .html ∧ tag.name ∈ Markup.escapedRawNames ∨
          tag.vocabulary ≠ .html ∧ tag.name ∈ Markup.literalNames)) := by
  refine ⟨?_, ?_, fun _ _ => Markup.not_isOrdinary_iff⟩
  · simp only [Markup.outerHtml_eq_iff]
    exact Markup.elements_eq_iff root
  · intro s hroot h
    rw [innerHtml?, outerHtml?, hroot, ← Markup.innerHtml_eq h]
    refine ⟨rfl, fun helement => ?_⟩
    have hself : root ∈ root.elements := by
      cases root with
      | element tag children => exact List.mem_cons_self
      | _ => cases helement
    have hwritten := (Markup.elements_eq_iff root).mpr h root hself
    exact congrArg some ((Markup.outerHtml_eq_iff root).mpr hwritten)

/-- A fragment with a void element, a raw one and a value to escape. -/
def plainFragment : Scope :=
  .ofFragment "<p title='a \"b\"'>2 > 1<br></p><script>1 < 2</script>"

theorem plainFragment_standard : ∃ root, plainFragment.first?.bind (·.node?) = some root ∧
    (∀ e ∈ root.elements, Markup.isOrdinary e) ∧
    plainFragment.innerHtml? = some (Markup.Standard.innerHtml root) ∧
    root.elements.length = 4 := by
  have hread : ((plainFragment.first?.bind (·.node?)).map fun root =>
      root.elements.all Markup.isOrdinary && root.elements.length == 4) = some true := by
    decide +kernel
  obtain ⟨root, hroot, hsound⟩ := Option.map_eq_some_iff.mp hread
  rw [Bool.and_eq_true, List.all_eq_true, beq_iff_eq] at hsound
  exact ⟨root, hroot, hsound.1,
    ((Scope.html_standard_iff root).2.1 plainFragment hroot hsound.1).1, hsound.2⟩

/-- A foreign element with the name of a void one, and a raw element. -/
def strangeFragment : Scope :=
  .ofFragment "<svg><link></link></svg><xmp>1 < 2</xmp>"

theorem strangeFragment_written :
    strangeFragment.innerHtml? =
      some "<svg><link></svg><xmp>1 &lt; 2</xmp>" ∧
    (strangeFragment.first?.bind (·.node?)).map Markup.Standard.innerHtml =
      some "<svg><link></link></svg><xmp>1 < 2</xmp>" := by
  decide +kernel

end EditorBlocks
