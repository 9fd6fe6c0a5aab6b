import EditorBlocks.Markup.Outline
import EditorBlocks.Proofs.Markup.Narrowing
import EditorBlocks.Proofs.Text.Spacing
/-! Outlines keep the elements of a tree, their names and their nesting, and all text that is not
blank. Trees are compared by their marks in document order, which tell outlines apart. -/

namespace EditorBlocks

/-- What a walk through a tree meets, in document order. -/
inductive Mark
  | opening (name : String)
  | closing
  | text (data : String)
  | comment (data : String)
  deriving DecidableEq

namespace Mark

/-- What an outline has for a mark: text is trimmed, and goes with the comments if it is blank. -/
def tidied : Mark → Option Mark
  | text data => if Text.trim data = "" then none else some (text (Text.trim data))
  | comment _ => none
  | m => some m

/-- All text among marks. -/
def textChars (ms : List Mark) : List Char :=
  ms.flatMap fun
    | text data => data.toList
    | _ => []

theorem textChars_append (ms ns : List Mark) : textChars (ms ++ ns) = textChars ms ++ textChars ns :=
  List.flatMap_append

/-- Tidied marks have lost blanks only. -/
theorem solid_textChars_tidied (ms : List Mark) :
    Text.solid (textChars (ms.filterMap tidied)) = Text.solid (textChars ms) := by
  induction ms with
  | nil => rfl
  | cons m rest ih =>
    have hcons : ∀ ns, textChars (m :: ns) = textChars [m] ++ textChars ns := textChars_append [m]
    rw [hcons, Text.solid_append, ← ih]
    cases m with
    | opening | closing | comment => rfl
    | text data =>
      have hone : textChars [text data] = data.toList := List.append_nil _
      by_cases hblank : Text.trim data = ""
      · have hnone : Text.solid data.toList = [] := by rw [← Text.solid_trim, hblank]; rfl
        rw [List.filterMap_cons_none (by rw [tidied, if_pos hblank]), hone, hnone, List.nil_append]
      · rw [List.filterMap_cons_some (by rw [tidied, if_neg hblank])]
        change Text.solid ((Text.trim data).toList ++ _) = _
        rw [Text.solid_append, Text.solid_trim, hone]
        rfl

end Mark

/-- An outline as it is meant: text, or an element with its name and the outlines inside. -/
inductive Outline
  | text (data : String)
  | element (name : String) (children : List Outline)

namespace Outline

mutual
/-- An outline as plain data. -/
def toValue : Outline → Value
  | text data => .str data
  | element name children => .object [("type", .str name), ("children", .list (toValues children))]

def toValues : List Outline → List Value
  | [] => []
  | o :: rest => toValue o :: toValues rest
end

mutual
def marks : Outline → List Mark
  | text data => [.text data]
  | element name children => .opening name :: (marksOfList children ++ [.closing])

def marksOfList : List Outline → List Mark
  | [] => []
  | o :: rest => marks o ++ marksOfList rest
end

theorem marks_ne_closing (o : Outline) (ms ns : List Mark) : o.marks ++ ms ≠ .closing :: ns := by
  cases o <;> simp [marks]

mutual
/-- The marks of an outline show where it ends, and tell it from all others. -/
theorem marks_append_inj : ∀ (o o' : Outline) {ms ns : List Mark},
    o.marks ++ ms = o'.marks ++ ns → o = o' ∧ ms = ns
  | text data, text data', ms, ns, h => by
    obtain ⟨hdata, hrest⟩ := List.cons.inj h
    exact ⟨by rw [Mark.text.inj hdata], hrest⟩
  | text _, element .., _, _, h => by simp [marks] at h
  | element .., text _, _, _, h => by simp [marks] at h
  | element name children, element name' children', ms, ns, h => by
    simp only [marks, List.cons_append, List.append_assoc, List.cons.injEq, Mark.opening.injEq,
      List.nil_append] at h
    obtain ⟨hname, hchildren⟩ := h
    obtain ⟨rfl, hrest⟩ := marksOfList_append_inj children children' hchildren
    exact ⟨by rw [hname], hrest⟩

theorem marksOfList_append_inj : ∀ (os os' : List Outline) {ms ns : List Mark},
    marksOfList os ++ .closing :: ms = marksOfList os' ++ .closing :: ns → os = os' ∧ ms = ns
  | [], [], ms, ns, h => ⟨rfl, (List.cons.inj h).2⟩
  | [], o' :: rest', ms, ns, h => by
    rw [marksOfList, marksOfList, List.append_assoc] at h
    exact absurd h.symm (marks_ne_closing o' _ _)
  | o :: rest, [], ms, ns, h => by
    rw [marksOfList, marksOfList, List.append_assoc] at h
    exact absurd h (marks_ne_closing o _ _)
  | o :: rest, o' :: rest', ms, ns, h => by
    rw [marksOfList, marksOfList, List.append_assoc, List.append_assoc] at h
    obtain ⟨rfl, hrest⟩ := marks_append_inj o o' h
    obtain ⟨rfl, hlast⟩ := marksOfList_append_inj rest rest' hrest
    exact ⟨rfl, hlast⟩
end

theorem marks_inj {o o' : Outline} (h : o.marks = o'.marks) : o = o' :=
  (marks_append_inj o o' (congrArg (· ++ []) h)).1

end Outline

namespace Node

mutual
def marks : Node → List Mark
  | element tag children => .opening tag.name :: (marksOfList children ++ [.closing])
  | text data => [.text data]
  | comment data => [.comment data]

def marksOfList : List Node → List Mark
  | [] => []
  | n :: rest => marks n ++ marksOfList rest
end

mutual
theorem textChars_marks : ∀ n : Node, Mark.textChars n.marks = n.textChars
  | element tag children => by
    have hinner := textChars_marksOfList children
    rw [marks, textChars, ← hinner]
    change Mark.textChars (marksOfList children ++ [.closing]) = _
    rw [Mark.textChars_append]
    exact List.append_nil _
  | text data => List.append_nil _
  | comment _ => rfl

theorem textChars_marksOfList : ∀ ns : List Node,
    Mark.textChars (marksOfList ns) = textCharsOfList ns
  | [] => rfl
  | n :: rest => by
    rw [marksOfList, textCharsOfList, Mark.textChars_append, textChars_marks n,
      textChars_marksOfList rest]
end

mutual
/-- The outline of a node, if it has one, has the marks of the node as they are tidied. -/
theorem exists_outline : ∀ n : Node, ∃ o : Option Outline, n.outline? = o.map Outline.toValue ∧
    Outline.marksOfList o.toList = n.marks.filterMap Mark.tidied
  | element tag children => by
    obtain ⟨os, hos, hmarks⟩ := exists_outlines children
    refine ⟨some (.element tag.name os), by rw [outline?, hos]; rfl, ?_⟩
    have hopening : Mark.tidied (.opening tag.name) = some (.opening tag.name) := rfl
    rw [marks, List.filterMap_cons_some hopening, List.filterMap_append, ← hmarks]
    exact List.append_nil _
  | text data => by
    by_cases hblank : Text.trim data = ""
    · exact ⟨none, by rw [outline?, if_pos hblank]; rfl, by
        rw [marks, List.filterMap_cons_none (by rw [Mark.tidied, if_pos hblank])]; rfl⟩
    · exact ⟨some (.text (Text.trim data)), by rw [outline?, if_neg hblank]; rfl, by
        rw [marks, List.filterMap_cons_some (by rw [Mark.tidied, if_neg hblank])]; rfl⟩
  | comment _ => ⟨none, rfl, rfl⟩

theorem exists_outlines : ∀ ns : List Node, ∃ os : List Outline,
    outlines ns = Outline.toValues os ∧
      Outline.marksOfList os = (marksOfList ns).filterMap Mark.tidied
  | [] => ⟨[], rfl, rfl⟩
  | n :: rest => by
    obtain ⟨o, ho, hmarks⟩ := exists_outline n
    obtain ⟨os, hos, hrest⟩ := exists_outlines rest
    rw [outlines, ho, marksOfList, List.filterMap_append, ← hmarks, ← hrest]
    cases o with
    | none => exact ⟨os, hos, rfl⟩
    | some o => exact ⟨o :: os, by rw [hos]; rfl, by simp [Outline.marksOfList]⟩
end

/-- An element has an outline. -/
theorem exists_outline_element (tag : Tag) (children : List Node) : ∃ o : Outline,
    (element tag children).outline? = some o.toValue ∧
      o.marks = (element tag children).marks.filterMap Mark.tidied := by
  obtain ⟨o, ho, hmarks⟩ := exists_outline (element tag children)
  cases o with
  | none => cases ho
  | some o => exact ⟨o, ho, (List.append_nil _).symm.trans hmarks⟩

theorem solid_textContent_iff (tag : Tag) (children : List Node) :
    Text.solid (element tag children).textContent.toList = Text.solid (textCharsOfList children) ↔
      hasSeparateText tag = false ∨ Text.solid (textCharsOfList children) = [] := by
  rw [textContent]
  by_cases htag : hasSeparateText tag
  · rw [if_pos htag, htag]
    change [] = _ ↔ _
    exact ⟨fun h => .inr h.symm, fun h => (h.resolve_left Bool.noConfusion).symm⟩
  · rw [if_neg htag, String.toList_ofList]
    simp [htag]

/-- The outline of an element is the only one that has the element's marks as they are tidied: the
same elements in the same nesting and order, with text trimmed in its place, and neither comments nor
blank text. What is not blank of the text is kept. It is the text that the element shows when asked,
exactly if the element is not one whose text is set apart, or if there is no such text. -/
theorem outline_faithful (tag : Tag) (children : List Node) : ∃ o : Outline,
    (element tag children).outline? = some o.toValue ∧
    (∀ o' : Outline, o'.marks = (element tag children).marks.filterMap Mark.tidied ↔ o' = o) ∧
    Text.solid (Mark.textChars o.marks) = Text.solid (textCharsOfList children) ∧
    (Text.solid (Mark.textChars o.marks) = Text.solid (element tag children).textContent.toList ↔
      hasSeparateText tag = false ∨ Text.solid (textCharsOfList children) = []) := by
  obtain ⟨o, houtline, hmarks⟩ := exists_outline_element tag children
  have hsolid : Text.solid (Mark.textChars o.marks) = Text.solid (textCharsOfList children) := by
    rw [hmarks, Mark.solid_textChars_tidied, textChars_marks, textChars]
  refine ⟨o, houtline, fun o' => ⟨fun h => ?_, fun h => ?_⟩, hsolid, ?_⟩
  · exact Outline.marks_inj (h.trans hmarks.symm)
  · rw [h, hmarks]
  · rw [hsolid, eq_comm]
    exact solid_textContent_iff tag children

/-- Asked for its text, a script has none; its outline tells the text all the same. -/
theorem scriptText_untold : ∃ found node,
    (Scope.ofFragment "<script>x</script>").filter "script" = .ok found ∧
    found.first?.bind (·.node?) = some node ∧
    node.outline? = some (Outline.element "script" [.text "x"]).toValue ∧
    found.text? = some "" ∧
    Text.solid (Mark.textChars (Outline.element "script" [.text "x"]).marks) ≠
      Text.solid node.textContent.toList := by
  have hfacts : ((Scope.ofFragment "<script>x</script>").filter "script").toOption.any (fun found =>
      (found.first?.bind (·.node?)).any fun node => node.isElement &&
        node.marks == [.opening "script", .text "x", .closing] && node.textContent == "") = true := by
    decide +kernel
  obtain ⟨found, hfound, hfacts⟩ := (Option.any_eq_true _ _).mp hfacts
  obtain ⟨node, hnode, hfacts⟩ := (Option.any_eq_true _ _).mp hfacts
  simp only [Bool.and_eq_true, beq_iff_eq] at hfacts
  obtain ⟨⟨helement, hmarks⟩, htext⟩ := hfacts
  refine ⟨found, node, Scope.eq_ok_of_toOption hfound, hnode, ?_, ?_, ?_⟩
  · cases node with
    | text | comment => cases helement
    | element tag children =>
      obtain ⟨o, houtline, ho⟩ := exists_outline_element tag children
      rw [hmarks] at ho
      have hscript : o = .element "script" [.text "x"] := Outline.marks_inj ho
      rw [houtline, hscript]
  · rw [Scope.text?, Scope.rawText?, hnode, Option.map_some, htext]
    rfl
  · rw [htext]
    decide

end Node
end EditorBlocks
