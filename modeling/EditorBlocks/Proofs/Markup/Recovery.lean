import EditorBlocks.Proofs.Markup.Standard
import Mathlib.Data.List.Infix
/-! Reading back what is written: a reader that recovers a forest from its HTML, up to vocabularies
and to the encodings that are replaced in writing. -/

namespace EditorBlocks

namespace Node
variable {f g : Tag → Tag}

mutual
/-- Changes the tag of every element. -/
def mapTags (f : Tag → Tag) : Node → Node
  | element tag children => element (f tag) (mapTagsOfList f children)
  | n => n

def mapTagsOfList (f : Tag → Tag) : List Node → List Node
  | [] => []
  | n :: rest => mapTags f n :: mapTagsOfList f rest
end

mutual
theorem mapTags_eq_iff : ∀ n : Node, n.mapTags f = n.mapTags g ↔
    ∀ tag children, element tag children ∈ n.elements → f tag = g tag
  | element tag children => by
    simp only [mapTags, elements, element.injEq, mapTagsOfList_eq_iff children, List.mem_cons]
    constructor
    · rintro ⟨htag, hinner⟩ tag' children' (⟨rfl, -⟩ | hmem)
      · exact htag
      · exact hinner tag' children' hmem
    · intro h
      exact ⟨h tag children (.inl ⟨rfl, rfl⟩), fun tag' children' hmem => h tag' children' (.inr hmem)⟩
  | text _ => by simp [mapTags, elements]
  | comment _ => by simp [mapTags, elements]

theorem mapTagsOfList_eq_iff : ∀ ns : List Node, mapTagsOfList f ns = mapTagsOfList g ns ↔
    ∀ tag children, element tag children ∈ elementsOfList ns → f tag = g tag
  | [] => by simp [mapTagsOfList, elementsOfList]
  | n :: rest => by
    simp only [mapTagsOfList, elementsOfList, List.cons.injEq, mapTags_eq_iff n,
      mapTagsOfList_eq_iff rest, List.mem_append]
    constructor
    · rintro ⟨hn, hrest⟩ tag children (hmem | hmem)
      · exact hn tag children hmem
      · exact hrest tag children hmem
    · intro h
      exact ⟨fun tag children hmem => h tag children (.inl hmem),
        fun tag children hmem => h tag children (.inr hmem)⟩
end

end Node

namespace Markup
variable {c stop : Char} {cs value left rest : List Char}

/-! ### Pieces -/

/-- What satisfies a test up to a character that does not is cut there. -/
theorem takeWhile_append {p : Char → Bool} (h : ∀ c ∈ cs, p c)
    (hrest : ∀ c ∈ rest.head?, p c = false) :
    (cs ++ rest).takeWhile p = cs ∧ (cs ++ rest).dropWhile p = rest := by
  rw [List.takeWhile_append_of_pos h, List.dropWhile_append_of_pos h]
  cases rest with
  | nil => exact ⟨List.append_nil _, rfl⟩
  | cons c rest =>
    have hc : ¬p c = true := Bool.not_eq_true _ ▸ hrest c rfl
    rw [List.takeWhile_cons_of_neg hc, List.dropWhile_cons_of_neg hc, List.append_nil]
    exact ⟨rfl, rfl⟩

/-- The data of a comment, and what stands after the comment. -/
def cutComment : List Char → Option (List Char × List Char)
  | [] => none
  | '-' :: '-' :: '>' :: rest => some ([], rest)
  | c :: rest => (cutComment rest).map fun p => (c :: p.1, p.2)

theorem cutComment_append (h : ¬"-->".toList <:+: cs) (rest : List Char) :
    cutComment (cs ++ ("-->".toList ++ rest)) = some (cs, rest) := by
  induction cs with
  | nil => rfl
  | cons c cs ih =>
    have hcs : ¬"-->".toList <:+: cs := fun hin => h (hin.trans (List.suffix_cons c cs).isInfix)
    have hstep : cutComment (c :: (cs ++ ("-->".toList ++ rest))) =
        (cutComment (cs ++ ("-->".toList ++ rest))).map fun p => (c :: p.1, p.2) := by
      rw [cutComment]
      -- the end of the comment does not begin at this character
      rintro left rfl hleft
      match cs, hleft with
      | [], hleft => simp at hleft
      | [d], hleft => simp at hleft
      | d :: e :: ds, hleft =>
        simp only [List.cons_append, List.cons.injEq] at hleft
        obtain ⟨rfl, rfl, -⟩ := hleft
        exact h ⟨[], ds, rfl⟩
    rw [List.cons_append, hstep, ih hcs]
    rfl

theorem cutComment_length (h : cutComment cs = some (value, left)) : left.length < cs.length := by
  induction cs using cutComment.induct generalizing value with
  | case1 => cases h
  | case2 rest =>
    rw [cutComment] at h
    cases h
    simp only [List.length_cons]
    omega
  | case3 c rest hne ih =>
    rw [cutComment] at h
    · obtain ⟨⟨before, after⟩, hcut, heq⟩ := Option.map_eq_some_iff.mp h
      cases heq
      exact Nat.lt_succ_of_lt (ih hcut)
    · exact hne

/-- A piece of written HTML. The vocabulary of a tag is not written; it is read as that of HTML. -/
inductive Piece
  | opening (tag : Tag)
  | closing (name : String)
  | text (data : String)
  | comment (data : String)

/-- The characters of a name as it is written. -/
def isNameChar (c : Char) : Bool :=
  !(Text.isSpacing c || c == '"' || c == '\'' || c == '=' || c == '/' || c == '<' || c == '>')

/-- An attribute, and what stands after it. -/
def readAttribute (cs : List Char) : Option ((String × String) × List Char) :=
  (cut '=' cs).bind fun p => (cut '"' (p.2.drop 1)).map fun q =>
    ((String.ofList p.1, String.ofList (unescape q.1)), q.2)

theorem readAttribute_length {a : String × String} (h : readAttribute cs = some (a, left)) :
    left.length < cs.length := by
  obtain ⟨⟨name, quoted⟩, hname, h⟩ := Option.bind_eq_some_iff.mp h
  obtain ⟨⟨value, after⟩, hvalue, heq⟩ := Option.map_eq_some_iff.mp h
  cases heq
  have hname : quoted.length < cs.length := cut_length hname
  have hvalue : after.length < (quoted.drop 1).length := cut_length hvalue
  rw [List.length_drop] at hvalue
  exact Nat.lt_of_lt_of_le hvalue (by omega)

/-- The attributes up to the end of a start tag, and what stands after it. -/
def readAttributes : List Char → Option (List (String × String) × List Char)
  | '>' :: rest => some ([], rest)
  | ' ' :: rest =>
    match _h : readAttribute rest with
    | some (a, left) => (readAttributes left).map fun p => (a :: p.1, p.2)
    | none => none
  | _ => none
termination_by cs => cs.length
decreasing_by
  have hlength := readAttribute_length _h
  exact Nat.lt_succ_of_lt hlength

theorem readAttributes_length {as : List (String × String)}
    (h : readAttributes cs = some (as, left)) : left.length < cs.length := by
  induction cs using readAttributes.induct generalizing as with
  | case1 rest =>
    rw [readAttributes] at h
    cases h
    exact Nat.lt_succ_self _
  | case2 rest a left' ha ih =>
    have hfirst := readAttribute_length ha
    rw [readAttributes, ha] at h
    obtain ⟨⟨others, after⟩, hothers, heq⟩ := Option.map_eq_some_iff.mp h
    cases heq
    exact Nat.lt_succ_of_lt (Nat.lt_trans (ih hothers) hfirst)
  | case3 rest hnone =>
    rw [readAttributes, hnone] at h
    cases h
  | case4 cs hend hspace =>
    rw [readAttributes] at h
    · cases h
    · exact hend
    · exact hspace

/-- The first piece of a text, and what stands after it. -/
def readPiece : List Char → Option (Piece × List Char)
  | '<' :: '/' :: rest => (cut '>' rest).map fun p => (.closing (String.ofList p.1), p.2)
  | '<' :: '!' :: '-' :: '-' :: rest =>
    (cutComment rest).map fun p => (.comment (String.ofList p.1), p.2)
  | '<' :: rest => (readAttributes (rest.dropWhile isNameChar)).map fun p =>
      (.opening ⟨.html, String.ofList (rest.takeWhile isNameChar), p.1⟩, p.2)
  | cs => some (.text (String.ofList (unescape (cs.takeWhile (· != '<')))),
      cs.dropWhile (· != '<'))

theorem readPiece_length {p : Piece} (h : readPiece cs = some (p, left)) (hcs : cs ≠ []) :
    left.length < cs.length := by
  unfold readPiece at h
  split at h
  · rename_i rest
    obtain ⟨⟨name, after⟩, hcut, heq⟩ := Option.map_eq_some_iff.mp h
    cases heq
    have hcut := cut_length hcut
    simp only [List.length_cons]
    omega
  · rename_i rest
    obtain ⟨⟨data, after⟩, hcut, heq⟩ := Option.map_eq_some_iff.mp h
    cases heq
    have hcut := cutComment_length hcut
    simp only [List.length_cons]
    omega
  · rename_i rest _ _
    obtain ⟨⟨as, after⟩, hread, heq⟩ := Option.map_eq_some_iff.mp h
    cases heq
    have hread := readAttributes_length hread
    have hname := (List.dropWhile_suffix isNameChar (l := rest)).length_le
    simp only [List.length_cons]
    omega
  · rename_i hmarkup
    cases h
    cases cs with
    | nil => exact absurd rfl hcs
    | cons c rest =>
      have hc : (c != '<') = true := by
        rw [bne_iff_ne]
        rintro rfl
        exact hmarkup rest rfl
      simp only [List.dropWhile_cons, hc, ↓reduceIte]
      exact Nat.lt_succ_of_le (List.dropWhile_suffix _).length_le

/-- The pieces of a text. -/
def readPieces (cs : List Char) : Option (List Piece) :=
  if _hcs : cs = [] then some []
  else match _h : readPiece cs with
    | some (p, left) => (readPieces left).map (p :: ·)
    | none => none
termination_by cs.length
decreasing_by exact readPiece_length _h _hcs

theorem readPieces_nil : readPieces [] = some [] := by
  rw [readPieces]
  rfl

theorem readPieces_of_readPiece {p : Piece} (h : readPiece cs = some (p, left)) (hcs : cs ≠ []) :
    readPieces cs = (readPieces left).map (p :: ·) := by
  rw [readPieces, dif_neg hcs, h]

/-! ### Forests that can be recovered -/

/-- A tag as it is written: its vocabulary is not, and an encoding is replaced. -/
def printedTag (tag : Tag) : Tag :=
  ⟨.html, tag.name, tag.attributes.map fun a => (a.1, printedValue tag a.1 a.2)⟩

/-- A tag but for its vocabulary. -/
def plainTag (tag : Tag) : Tag := { tag with vocabulary := .html }

theorem startTagChars_eq_printedTag (tag : Tag) :
    startTagChars tag = Standard.startTagChars (printedTag tag) := by
  rw [startTagChars, Standard.startTagChars, printedTag, List.flatMap_map, attributeChars_eq]

def isText : Node → Bool
  | .text _ => true
  | _ => false

/-- A tag whose names can be told from what stands around them. -/
def hasSoundNames (tag : Tag) : Bool :=
  tag.name != "" && tag.name.toList.all isNameChar && tag.name.toList.head? != some '!'
    && tag.attributes.all fun a => a.1.toList.all isNameChar

mutual
def isRecoverable : Node → Bool
  | .element tag children =>
    hasSoundNames tag && !isLiteral tag && (!isVoid tag || children.isEmpty)
      && areRecoverable children
  | .text data => data != ""
  | .comment data => !decide ("-->".toList <:+: data.toList)

/-- Siblings that can be told apart: no two texts are adjacent. -/
def areRecoverable : List Node → Bool
  | [] => true
  | n :: rest =>
    isRecoverable n && !(isText n && rest.head?.any isText) && areRecoverable rest
end

mutual
/-- The pieces in which a node is written. -/
def pieces : Node → List Piece
  | .element tag children =>
    .opening (printedTag tag) :: (piecesOfList children
      ++ (if children.isEmpty && isVoid tag then [] else [.closing tag.name]))
  | .text data => [.text data]
  | .comment data => [.comment data]

def piecesOfList : List Node → List Piece
  | [] => []
  | n :: rest => pieces n ++ piecesOfList rest
end

/-! ### Reading the pieces -/

theorem readAttribute_append {a : String × String} (ha : a.1.toList.all isNameChar)
    (rest : List Char) :
    readAttribute (a.1.toList ++ '=' :: '"' :: (escapeValueChars a.2.toList ++ '"' :: rest)) =
      some (a, rest) := by
  have hname : ∀ c ∈ a.1.toList, c ≠ '=' := by
    rintro c hc rfl
    exact absurd (List.all_eq_true.mp ha _ hc) (by decide)
  rw [readAttribute, cut_append hname]
  change (cut '"' (escapeValueChars a.2.toList ++ '"' :: rest)).map _ = _
  rw [cut_append (not_mem_escapeValueChars _)]
  simp only [Option.map_some, unescape_escapeValueChars, String.ofList_toList]

theorem readAttributes_append (as : List (String × String))
    (h : as.all fun a => a.1.toList.all isNameChar) (rest : List Char) :
    readAttributes (as.flatMap Standard.attributeChars ++ '>' :: rest) = some (as, rest) := by
  induction as with
  | nil => rw [List.flatMap_nil, List.nil_append, readAttributes]
  | cons a others ih =>
    rw [List.all_cons, Bool.and_eq_true] at h
    have hfirst := readAttribute_append h.1 (others.flatMap Standard.attributeChars ++ '>' :: rest)
    simp only [List.flatMap_cons, Standard.attributeChars, Standard.escapedValue_eq,
      List.cons_append, List.append_assoc, List.nil_append]
    rw [readAttributes, hfirst]
    simp only [ih h.2, Option.map_some]

/-- What can follow a text: nothing, or a piece of another kind. -/
def BeginsMarkup (cs : List Char) : Prop := ∀ c ∈ cs.head?, c = '<'

variable {tag : Tag} {data : String} {ns : List Node}

theorem readPiece_startTag (h : hasSoundNames tag) (rest : List Char) :
    readPiece (startTagChars tag ++ rest) = some (.opening (printedTag tag), rest) := by
  simp only [hasSoundNames, Bool.and_eq_true, bne_iff_ne] at h
  obtain ⟨⟨⟨hne, hname⟩, hmark⟩, hattributes⟩ := h
  have hall : (printedTag tag).attributes.all fun a => a.1.toList.all isNameChar := by
    rw [printedTag, List.all_map]
    exact hattributes
  have hread := readAttributes_append (printedTag tag).attributes hall rest
  have hafter : ∀ c ∈ ((printedTag tag).attributes.flatMap Standard.attributeChars ++
      '>' :: rest).head?, isNameChar c = false := by
    cases (printedTag tag).attributes with
    | nil =>
      rintro c ⟨⟩
      decide
    | cons a others =>
      rintro c ⟨⟩
      decide
  obtain ⟨htake, hdrop⟩ := takeWhile_append (List.all_eq_true.mp hname) hafter
  have hwritten : startTagChars tag ++ rest = '<' :: (tag.name.toList ++
      ((printedTag tag).attributes.flatMap Standard.attributeChars ++ '>' :: rest)) := by
    rw [startTagChars_eq_printedTag, Standard.startTagChars]
    simp only [List.cons_append, List.append_assoc, List.nil_append]
    rfl
  -- the name tells a start tag from an end tag and from a comment
  have hfirst : ∃ c cs, tag.name.toList = c :: cs ∧ c ≠ '/' ∧ c ≠ '!' := by
    cases hcs : tag.name.toList with
    | nil => exact absurd (String.toList_eq_nil_iff.mp hcs) hne
    | cons c cs =>
      rw [hcs] at hname hmark
      refine ⟨c, cs, rfl, ?_, fun hc => hmark (congrArg some hc)⟩
      rintro rfl
      exact absurd (List.all_eq_true.mp hname _ List.mem_cons_self) (by decide)
  obtain ⟨c, cs, hcs, hslash, hbang⟩ := hfirst
  rw [hwritten, readPiece, htake, hdrop, hread]
  · simp only [Option.map_some, String.ofList_toList]
    rfl
  · intro left hleft
    rw [hcs] at hleft
    exact hslash (List.cons.inj hleft).1
  · intro left hleft
    rw [hcs] at hleft
    exact hbang (List.cons.inj hleft).1

theorem readPiece_endTag (h : hasSoundNames tag) (rest : List Char) :
    readPiece (endTagChars tag ++ rest) = some (.closing tag.name, rest) := by
  simp only [hasSoundNames, Bool.and_eq_true] at h
  have hname : ∀ c ∈ tag.name.toList, c ≠ '>' := by
    rintro c hc rfl
    exact absurd (List.all_eq_true.mp h.1.1.2 _ hc) (by decide)
  simp only [endTagChars, List.cons_append, List.append_assoc, List.nil_append]
  rw [readPiece, cut_append hname]
  simp only [Option.map_some, String.ofList_toList]

theorem readPiece_comment (h : isRecoverable (.comment data)) (rest : List Char) :
    readPiece (nodeChars false (.comment data) ++ rest) = some (.comment data, rest) := by
  have hdata : ¬"-->".toList <:+: data.toList := by
    simpa only [isRecoverable, Bool.not_eq_true', decide_eq_false_iff_not] using h
  rw [nodeChars, List.append_assoc, List.append_assoc]
  change (cutComment (data.toList ++ ("-->".toList ++ rest))).map _ = _
  rw [cutComment_append hdata]
  simp only [Option.map_some, String.ofList_toList]

theorem readPiece_text (h : isRecoverable (.text data)) {rest : List Char}
    (hrest : BeginsMarkup rest) :
    readPiece (nodeChars false (.text data) ++ rest) = some (.text data, rest) := by
  rw [isRecoverable, bne_iff_ne] at h
  have hstop : ∀ c ∈ rest.head?, (c != '<') = false := fun c hc => by rw [hrest c hc]; rfl
  obtain ⟨htake, hdrop⟩ := takeWhile_append
    (fun c hc => bne_iff_ne.mpr (not_mem_escapeTextChars data.toList c hc)) hstop
  have hnot : ∀ left, escapeTextChars data.toList ++ rest ≠ '<' :: left := by
    intro left hleft
    cases hcs : escapeTextChars data.toList with
    | nil => exact h (String.toList_eq_nil_iff.mp (escapeTextChars_eq_nil_iff.mp hcs))
    | cons c cs =>
      rw [hcs] at hleft
      exact not_mem_escapeTextChars data.toList c (by rw [hcs]; exact List.mem_cons_self)
        (List.cons.inj hleft).1
  rw [nodeChars, if_neg Bool.false_ne_true, readPiece]
  · rw [htake, hdrop, unescape_escapeTextChars, String.ofList_toList]
  · exact fun left => hnot _
  · exact fun left => hnot _
  · exact fun left => hnot _

theorem beginsMarkup_endTagChars (tag : Tag) (rest : List Char) :
    BeginsMarkup (endTagChars tag ++ rest) := by
  rintro c ⟨⟩
  rfl

/-- What stands after a text begins with markup, since no other text is next to it. -/
theorem beginsMarkup_nodesChars {rest : List Char} (hrest : BeginsMarkup rest)
    (h : ¬ns.head?.any isText) : BeginsMarkup (nodesChars false ns ++ rest) := by
  cases ns with
  | nil => exact hrest
  | cons n others =>
    rw [nodesChars, List.append_assoc]
    cases n with
    | text data => exact absurd rfl h
    | comment data =>
      rw [nodeChars]
      rintro c ⟨⟩
      rfl
    | element tag children =>
      have hstart : ∀ left, BeginsMarkup (startTagChars tag ++ left) := by
        rintro left c ⟨⟩
        rfl
      rw [nodeChars]
      split
      · exact hstart _
      · rw [List.append_assoc, List.append_assoc]
        exact hstart _

mutual
/-- Written nodes are read as their pieces, whatever follows, as long as a text does not go on. -/
theorem readPieces_nodeChars : ∀ (n : Node), isRecoverable n → ∀ rest : List Char,
    (isText n → BeginsMarkup rest) →
      readPieces (nodeChars false n ++ rest) = (readPieces rest).map (pieces n ++ ·)
  | .text data, h, rest, hrest => by
    have hread := readPiece_text h (hrest rfl)
    rw [readPieces_of_readPiece hread, pieces]
    · rfl
    · intro hnil
      rw [hnil] at hread
      cases hread
      cases h
  | .comment data, h, rest, _ => by
    have hread := readPiece_comment h rest
    rw [readPieces_of_readPiece hread, pieces]
    · rfl
    · exact fun hnil => by cases hnil
  | .element tag children, h, rest, _ => by
    simp only [isRecoverable, Bool.and_eq_true, Bool.not_eq_true', Bool.or_eq_true] at h
    obtain ⟨⟨⟨hnames, hliteral⟩, hvoid⟩, hchildren⟩ := h
    have hstart := fun left => readPieces_of_readPiece (readPiece_startTag hnames left)
      (fun hnil => by cases hnil)
    rw [nodeChars, pieces]
    split
    · obtain rfl := List.isEmpty_iff.mp (Bool.and_eq_true_iff.mp ‹_›).1
      rw [hstart]
      rfl
    · have hend := readPieces_of_readPiece (readPiece_endTag hnames rest)
        (fun hnil => by cases hnil)
      have hinner := readPieces_nodesChars children hchildren (endTagChars tag ++ rest)
        (beginsMarkup_endTagChars tag rest)
      rw [List.append_assoc, List.append_assoc, hstart, hliteral, hinner, hend]
      simp only [Option.map_map, Function.comp_def, List.cons_append, List.append_assoc,
        List.nil_append]

theorem readPieces_nodesChars : ∀ (ns : List Node), areRecoverable ns → ∀ rest : List Char,
    BeginsMarkup rest →
      readPieces (nodesChars false ns ++ rest) = (readPieces rest).map (piecesOfList ns ++ ·)
  | [], _, rest, _ => by
    rw [nodesChars, List.nil_append]
    exact Option.map_id'.symm
  | n :: others, h, rest, hrest => by
    simp only [areRecoverable, Bool.and_eq_true, Bool.not_eq_true', Bool.and_eq_false_iff] at h
    obtain ⟨⟨hn, hapart⟩, hothers⟩ := h
    have hfirst := readPieces_nodeChars n hn (nodesChars false others ++ rest) fun htext =>
      beginsMarkup_nodesChars hrest (by rw [hapart.resolve_left (by rw [htext]; decide)]; decide)
    rw [nodesChars, List.append_assoc, hfirst, readPieces_nodesChars others hothers rest hrest,
      piecesOfList]
    simp only [Option.map_map, Function.comp_def, List.append_assoc]
end

/-! ### Putting the pieces together -/

/-- The forest that pieces make up, after `done`, inside the open elements of `stack`, each with what
stands before it. What is done is kept backwards. -/
def assemble : List Piece → List (Tag × List Node) → List Node → Option (List Node)
  | [], [], done => some done.reverse
  | [], _ :: _, _ => none
  | .opening tag :: rest, stack, done =>
    if isVoid tag then assemble rest stack (.element tag [] :: done)
    else assemble rest ((tag, done) :: stack) []
  | .closing _ :: _, [], _ => none
  | .closing name :: rest, (tag, before) :: stack, done =>
    if name = tag.name then assemble rest stack (.element tag done.reverse :: before) else none
  | .text data :: rest, stack, done => assemble rest stack (.text data :: done)
  | .comment data :: rest, stack, done => assemble rest stack (.comment data :: done)

mutual
theorem assemble_pieces : ∀ (n : Node), isRecoverable n →
    ∀ (ps : List Piece) (stack : List (Tag × List Node)) (done : List Node),
      assemble (pieces n ++ ps) stack done =
        assemble ps stack (n.mapTags printedTag :: done)
  | .text data, _, ps, stack, done => by
    rw [pieces, List.singleton_append, assemble, Node.mapTags]
    all_goals exact fun _ _ h => by cases h
  | .comment data, _, ps, stack, done => by
    rw [pieces, List.singleton_append, assemble, Node.mapTags]
    all_goals exact fun _ _ h => by cases h
  | .element tag children, h, ps, stack, done => by
    simp only [isRecoverable, Bool.and_eq_true, Bool.not_eq_true', Bool.or_eq_true] at h
    obtain ⟨⟨-, hvoid⟩, hchildren⟩ := h
    have hsame : isVoid (printedTag tag) = isVoid tag := rfl
    rw [pieces, List.cons_append, assemble, Node.mapTags, hsame]
    split
    · obtain rfl := List.isEmpty_iff.mp (hvoid.resolve_left (by simp [*]))
      simp [*, piecesOfList, Node.mapTagsOfList]
    · have hopen : (children.isEmpty && isVoid tag) = false := by simp [*]
      -- the children are done inside the element, and its end tag closes it
      rw [hopen, if_neg Bool.false_ne_true, List.append_assoc, assemble_piecesOfList children hchildren,
        List.append_nil, List.singleton_append, assemble,
        if_pos (show tag.name = (printedTag tag).name from rfl), List.reverse_reverse]

theorem assemble_piecesOfList : ∀ (ns : List Node), areRecoverable ns →
    ∀ (ps : List Piece) (stack : List (Tag × List Node)) (done : List Node),
      assemble (piecesOfList ns ++ ps) stack done =
        assemble ps stack ((Node.mapTagsOfList printedTag ns).reverse ++ done)
  | [], _, _, _, _ => rfl
  | n :: rest, h, ps, stack, done => by
    simp only [areRecoverable, Bool.and_eq_true] at h
    rw [piecesOfList, List.append_assoc, assemble_pieces n h.1.1,
      assemble_piecesOfList rest h.2, Node.mapTagsOfList, List.reverse_cons, List.append_assoc,
      List.singleton_append]
end

/-- The forest that a text is the HTML of. -/
def readBack (html : String) : Option (List Node) :=
  (readPieces html.toList).bind (assemble · [] [])

/-- The HTML of a forest is read back as the forest, with the tags as they are written. -/
theorem readBack_innerHtml {children : List Node} (htag : isLiteral tag = false)
    (h : areRecoverable children) :
    readBack (innerHtml (.element tag children)) =
      some (Node.mapTagsOfList printedTag children) := by
  have hread := readPieces_nodesChars children h [] (fun c hc => by cases hc)
  have hassemble := assemble_piecesOfList children h [] [] []
  rw [List.append_nil, readPieces_nil, Option.map_some, List.append_nil] at hread
  rw [List.append_nil, List.append_nil, assemble, List.reverse_reverse] at hassemble
  rw [readBack, innerHtml, String.toList_ofList, htag, hread]
  exact hassemble

/-- All values of a tag are printed as they are. -/
def keepsOwnValues (tag : Tag) : Bool :=
  tag.attributes.all fun a => printedValue tag a.1 a.2 == a.2

/-- All values in a forest are printed as they are. -/
def keepsValues (ns : List Node) : Bool :=
  (Node.elementsOfList ns).all fun n => n.tag?.all keepsOwnValues

theorem printedTag_eq_plainTag_iff : printedTag tag = plainTag tag ↔ keepsOwnValues tag := by
  have hsame : tag.attributes = tag.attributes.map fun a => (a.1, a.2) := (List.map_id' _).symm
  rw [printedTag, plainTag, Tag.mk.injEq, eq_self, eq_self, true_and, true_and, keepsOwnValues,
    List.all_eq_true]
  simp only [beq_iff_eq]
  constructor
  · intro h a ha
    rw [hsame, List.map_map, List.map_inj_left] at h
    exact congrArg Prod.snd (h a ha)
  · intro h
    exact (List.map_congr_left fun a ha => by rw [h a ha]).trans hsame.symm

theorem mapTags_printedTag_iff : Node.mapTagsOfList printedTag ns = Node.mapTagsOfList plainTag ns ↔
    keepsValues ns := by
  simp only [Node.mapTagsOfList_eq_iff, printedTag_eq_plainTag_iff, keepsValues, List.all_eq_true]
  constructor
  · intro h n hn
    cases n with
    | element tag children => exact h tag children hn
    | _ => rfl
  · intro h tag children hmem
    exact h _ hmem

/-- Only the encoding that a `meta` element declares is replaced. -/
theorem printedValue_eq_or (name value : String) : printedValue tag name value = value ∨
    tag.name = "meta" ∧ (name = "charset" ∨ name = "content" ∧
      (tag.attribute? "http-equiv").any fun v => Text.lower v == "content-type") := by
  unfold printedValue
  split
  · exact .inl rfl
  · rename_i hmeta
    have hmeta : tag.name = "meta" := by simpa using hmeta
    split
    · split
      · exact .inr ⟨hmeta, .inl (beq_iff_eq.mp ‹_›)⟩
      · exact .inl rfl
    · split
      · rename_i hcontent
        rw [Bool.and_eq_true, beq_iff_eq] at hcontent
        exact .inr ⟨hmeta, .inr hcontent⟩
      · exact .inl rfl

end Markup

/-- The HTML of an element can be read back, and gives the forest inside it, but for vocabularies,
exactly if no value in it is replaced; forests without such values are the same if their HTML is.
Replaced is at most the encoding that a `meta` element declares. -/
theorem Scope.html_recovered (s : Scope) (tag : Tag) (children : List Node)
    (hroot : s.first?.bind (·.node?) = some (.element tag children))
    (htag : Markup.isLiteral tag = false) (h : Markup.areRecoverable children) :
    (s.innerHtml?.bind Markup.readBack = some (Node.mapTagsOfList Markup.plainTag children) ↔
      Markup.keepsValues children) ∧
    (Markup.keepsValues children → ∀ (s' : Scope) (tag' : Tag) (children' : List Node),
      s'.first?.bind (·.node?) = some (.element tag' children') → Markup.isLiteral tag' = false →
      Markup.areRecoverable children' → Markup.keepsValues children' →
      s.innerHtml? = s'.innerHtml? →
      Node.mapTagsOfList Markup.plainTag children =
        Node.mapTagsOfList Markup.plainTag children') ∧
    ∀ (tag : Tag) (name value : String), Markup.printedValue tag name value ≠ value →
      tag.name = "meta" ∧ (name = "charset" ∨ name = "content" ∧
        (tag.attribute? "http-equiv").any fun v => Text.lower v == "content-type") := by
  have hread : s.innerHtml?.bind Markup.readBack =
      some (Node.mapTagsOfList Markup.printedTag children) := by
    rw [innerHtml?, hroot, Option.map_some, Option.bind_some, Markup.readBack_innerHtml htag h]
  refine ⟨?_, ?_, fun tag name value h => (Markup.printedValue_eq_or name value).resolve_left h⟩
  · rw [hread, Option.some_inj, Markup.mapTags_printedTag_iff]
  · intro hkept s' tag' children' hroot' htag' h' hkept' hhtml
    have hread' : s'.innerHtml?.bind Markup.readBack =
        some (Node.mapTagsOfList Markup.printedTag children') := by
      rw [innerHtml?, hroot', Option.map_some, Option.bind_some, Markup.readBack_innerHtml htag' h']
    rw [hhtml, hread', Markup.mapTags_printedTag_iff.mpr hkept,
      Markup.mapTags_printedTag_iff.mpr hkept'] at hread
    exact (Option.some.inj hread).symm

/-- A fragment with characters to escape, a void element and a comment, and one that is spelled
otherwise but read as the same. -/
def mixedFragment : Scope := .ofFragment "<p title='a \"b\"'>2 > 1<br></p><!-- a - b -->"
def respelledFragment : Scope := .ofFragment "<P  title='a \"b\"' >2 > 1<br/></P><!-- a - b -->"

/-- The tag and the children of the first element of a scope, if it can be recovered from its
HTML. -/
def Scope.recoverable? (s : Scope) : Option (Tag × List Node) :=
  ((s.first?.bind (·.node?)).bind fun
    | .element tag children => some (tag, children)
    | _ => none).filter fun p => !Markup.isLiteral p.1 && Markup.areRecoverable p.2

theorem Scope.recoverable?_eq_some {s : Scope} {tag : Tag} {children : List Node}
    (h : s.recoverable? = some (tag, children)) :
    s.first?.bind (·.node?) = some (.element tag children) ∧ Markup.isLiteral tag = false ∧
      Markup.areRecoverable children := by
  obtain ⟨hroot, hsound⟩ := Option.filter_eq_some_iff.mp h
  rw [Bool.and_eq_true, Bool.not_eq_true'] at hsound
  obtain ⟨root, hroot, htag⟩ := Option.bind_eq_some_iff.mp hroot
  cases root with
  | element tag' children' =>
    cases htag
    exact ⟨hroot, hsound⟩
  | _ => cases htag

/-- An element with an encoding that is replaced. -/
def latinMeta : Tag := ⟨.html, "meta", [("charset", "latin1")]⟩

theorem mixedFragment_recovered : ∃ tag children tag' children',
    mixedFragment.recoverable? = some (tag, children) ∧
    respelledFragment.recoverable? = some (tag', children') ∧
    mixedFragment.innerHtml?.bind Markup.readBack =
      some (Node.mapTagsOfList Markup.plainTag children) ∧
    Node.mapTagsOfList Markup.plainTag children = Node.mapTagsOfList Markup.plainTag children' ∧
    latinMeta.name = "meta" := by
  have hkept : mixedFragment.recoverable?.any (fun p => Markup.keepsValues p.2) = true := by
    decide +kernel
  have hkept' : respelledFragment.recoverable?.any (fun p => Markup.keepsValues p.2) = true := by
    decide +kernel
  have hhtml : mixedFragment.innerHtml? = respelledFragment.innerHtml? := by decide +kernel
  have hlatin : Markup.printedValue latinMeta "charset" "latin1" ≠ "latin1" := by decide +kernel
  obtain ⟨⟨tag, children⟩, hread, hkept⟩ := (Option.any_eq_true _ _).mp hkept
  obtain ⟨⟨tag', children'⟩, hread', hkept'⟩ := (Option.any_eq_true _ _).mp hkept'
  obtain ⟨hroot, htag, h⟩ := Scope.recoverable?_eq_some hread
  obtain ⟨hroot', htag', h'⟩ := Scope.recoverable?_eq_some hread'
  obtain ⟨hback, hsame, hmeta⟩ := Scope.html_recovered mixedFragment tag children hroot htag h
  exact ⟨tag, children, tag', children', hread, hread', hback.mpr hkept,
    hsame hkept respelledFragment tag' children' hroot' htag' h' hkept' hhtml,
    (hmeta latinMeta "charset" "latin1" hlatin).1⟩

/-- A fragment with an encoding that is replaced, and one with what it is replaced by. -/
def latinFragment : Scope := .ofFragment "<meta charset='latin1'>"
def unicodeFragment : Scope := .ofFragment "<meta charset='utf-8'>"

/-- The tags inside the first element of a scope, if that can be recovered. -/
def Scope.recoverableTags? (s : Scope) : Option (List Tag) :=
  s.recoverable?.map fun p => (Node.elementsOfList p.2).filterMap (·.tag?)

theorem latinFragment_recoded :
    latinFragment.innerHtml? = unicodeFragment.innerHtml? ∧
    latinFragment.recoverableTags? = some [latinMeta] ∧
    unicodeFragment.recoverableTags? = some [⟨.html, "meta", [("charset", "utf-8")]⟩] := by
  decide +kernel

end EditorBlocks
