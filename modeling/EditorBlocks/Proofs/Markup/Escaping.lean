import EditorBlocks.Data.Entries
import EditorBlocks.Markup.Escape
import Mathlib.Data.List.Basic
/-! Escapes are made for each character by itself and can be undone: from escaped text the text can be
told, and where an escaped value ends. -/

namespace EditorBlocks.Markup
variable {table : List (Char × String)} {c stop : Char} {cs value left : List Char}

/-- Undoes the escapes of text and of values. -/
def unescape : List Char → List Char
  | [] => []
  | '&' :: 'a' :: 'm' :: 'p' :: ';' :: rest => '&' :: unescape rest
  | '&' :: 'n' :: 'b' :: 's' :: 'p' :: ';' :: rest => '\xa0' :: unescape rest
  | '&' :: 'l' :: 't' :: ';' :: rest => '<' :: unescape rest
  | '&' :: 'g' :: 't' :: ';' :: rest => '>' :: unescape rest
  | '&' :: 'q' :: 'u' :: 'o' :: 't' :: ';' :: rest => '"' :: unescape rest
  | c :: rest => c :: unescape rest

theorem unescape_cons (hc : c ≠ '&') (rest : List Char) :
    unescape (c :: rest) = c :: unescape rest := by
  rw [unescape] <;> simp [hc]

/-! ### Replacements of a table -/

/-- What a table has for a character: the character itself if it is not in the table. -/
def imageOf (table : List (Char × String)) (c : Char) : List Char :=
  ((Entries.find? c table).map String.toList).getD [c]

/-- A table by which text can be escaped in its order. -/
structure IsEscaping (table : List (Char × String)) : Prop where
  /-- What is put in for a character is left alone by the replacements after it. -/
  apart : table.Pairwise fun entry later => later.1 ∉ entry.2.toList
  ampersand : '&' ∈ Entries.keys table
  /-- Entities begin with an ampersand and have nothing else in them to escape. -/
  marked : ∀ entry ∈ table, ∃ name, entry.2.toList = '&' :: name ∧ name ≠ [] ∧
    ∀ x ∈ name, x ∉ Entries.keys table
  undone : ∀ entry ∈ table, ∀ rest, unescape (entry.2.toList ++ rest) = entry.1 :: unescape rest

theorem imageOf_cases (table : List (Char × String)) (c : Char) :
    (∃ entry ∈ table, entry.1 = c ∧ imageOf table c = entry.2.toList) ∨
      c ∉ Entries.keys table ∧ imageOf table c = [c] := by
  rw [imageOf]
  cases h : Entries.find? c table with
  | none => exact .inr ⟨Entries.find?_eq_none_iff.mp h, rfl⟩
  | some text => exact .inl ⟨(c, text), Entries.mem_of_find? h, rfl, rfl⟩

theorem imageOf_of_not_mem (h : c ∉ Entries.keys table) : imageOf table c = [c] := by
  rw [imageOf, Entries.find?_eq_none_iff.mpr h]
  rfl

/-- Replacements that leave each other's work alone are one pass over the text. -/
theorem replacingAll_eq_flatMap (h : table.Pairwise fun entry later => later.1 ∉ entry.2.toList)
    (cs : List Char) : replacingAll table cs = cs.flatMap (imageOf table) := by
  induction table generalizing cs with
  | nil => exact (List.flatMap_singleton' cs).symm
  | cons entry rest ih =>
    obtain ⟨hentry, hrest⟩ := List.pairwise_cons.mp h
    have hkept : ∀ x ∈ entry.2.toList, imageOf rest x = [x] := by
      intro x hx
      apply imageOf_of_not_mem
      intro hkey
      obtain ⟨later, hlater, rfl⟩ := List.mem_map.mp hkey
      exact hentry later hlater hx
    change replacingAll rest (replacing entry.1 entry.2 cs) = _
    rw [ih hrest, replacing, List.flatMap_assoc]
    refine List.flatMap_congr fun x _ => ?_
    by_cases hx : x = entry.1
    · rw [if_pos hx, List.flatMap_congr hkept, List.flatMap_singleton', imageOf, Entries.find?,
        if_pos hx.symm]
      rfl
    · rw [if_neg hx, List.flatMap_singleton, imageOf, imageOf, Entries.find?, if_neg (Ne.symm hx)]

section Escaping
variable (h : IsEscaping table)
include h

theorem IsEscaping.replacingAll_cons (c : Char) (cs : List Char) :
    replacingAll table (c :: cs) = imageOf table c ++ replacingAll table cs := by
  rw [replacingAll_eq_flatMap h.apart, replacingAll_eq_flatMap h.apart, List.flatMap_cons]

theorem IsEscaping.unescape_replacingAll (cs : List Char) :
    unescape (replacingAll table cs) = cs := by
  induction cs with
  | nil =>
    rw [replacingAll_eq_flatMap h.apart]
    rfl
  | cons c rest ih =>
    rw [h.replacingAll_cons]
    obtain ⟨entry, hentry, rfl, himage⟩ | ⟨hc, himage⟩ := imageOf_cases table c
    · rw [himage, h.undone entry hentry, ih]
    · have hne : c ≠ '&' := fun hamp => hc (hamp ▸ h.ampersand)
      rw [himage, List.singleton_append, unescape_cons hne, ih]

/-- Of the characters of the table only the ampersand is left. -/
theorem IsEscaping.eq_ampersand_of_mem {x : Char} (hx : x ∈ replacingAll table cs)
    (hkey : x ∈ Entries.keys table) : x = '&' := by
  rw [replacingAll_eq_flatMap h.apart] at hx
  obtain ⟨c, -, hc⟩ := List.mem_flatMap.mp hx
  obtain ⟨entry, hentry, rfl, himage⟩ | ⟨hnot, himage⟩ := imageOf_cases table c
  · obtain ⟨name, htext, -, hname⟩ := h.marked entry hentry
    rw [himage, htext] at hc
    rcases List.mem_cons.mp hc with hamp | hmem
    · exact hamp
    · exact absurd hkey (hname x hmem)
  · rw [himage, List.mem_singleton] at hc
    exact absurd (hc ▸ hkey) hnot

/-- Each ampersand that is left begins an entity. -/
theorem IsEscaping.entity_of_ampersand {before after : List Char}
    (hcut : replacingAll table cs = before ++ '&' :: after) :
    ∃ entry ∈ table, entry.2.toList <+: '&' :: after := by
  induction cs generalizing before with
  | nil =>
    rw [replacingAll_eq_flatMap h.apart] at hcut
    simp at hcut
  | cons c rest ih =>
    rw [h.replacingAll_cons] at hcut
    obtain ⟨behind, -, hrest⟩ | ⟨behind, himage, hafter⟩ := List.append_eq_append_iff.mp hcut
    · exact ih hrest
    -- The ampersand may stand in what the first character has become.
    cases behind with
    | nil =>
      have hrest : replacingAll table rest = [] ++ '&' :: after := hafter.symm
      exact ih hrest
    | cons x behind =>
      obtain ⟨rfl, hafter⟩ := List.cons.inj hafter
      have hamp : '&' ∈ imageOf table c := by simp [himage]
      obtain ⟨entry, hentry, -, htext⟩ | ⟨hnot, hself⟩ := imageOf_cases table c
      · obtain ⟨name, hmarked, -, hname⟩ := h.marked entry hentry
        have hfirst : before = [] := by
          rw [htext, hmarked] at himage
          cases before with
          | nil => rfl
          | cons y before =>
            obtain ⟨-, hin⟩ := List.cons.inj himage
            exact absurd h.ampersand (hname '&' (by simp [hin]))
        refine ⟨entry, hentry, ?_⟩
        rw [← htext, himage, hfirst, hafter]
        exact List.prefix_append _ _
      · rw [hself, List.mem_singleton] at hamp
        exact absurd h.ampersand (hamp ▸ hnot)

theorem IsEscaping.length_imageOf (c : Char) :
    1 < (imageOf table c).length ∨ imageOf table c = [c] := by
  obtain ⟨entry, hentry, -, himage⟩ | ⟨-, himage⟩ := imageOf_cases table c
  · obtain ⟨name, htext, hname, -⟩ := h.marked entry hentry
    have hlength := List.length_pos_iff.mpr hname
    exact .inl (by rw [himage, htext, List.length_cons]; omega)
  · exact .inr himage

/-- Escaping makes a text longer, or leaves it as it is. -/
theorem IsEscaping.length_replacingAll (cs : List Char) :
    cs.length < (replacingAll table cs).length ∨ replacingAll table cs = cs := by
  induction cs with
  | nil => exact .inr (replacingAll_eq_flatMap h.apart [])
  | cons c rest ih =>
    rw [h.replacingAll_cons, List.length_append, List.length_cons]
    obtain hc | hc := h.length_imageOf c <;> obtain hrest | hrest := ih
    · exact .inl (by omega)
    · exact .inl (by rw [hrest]; omega)
    · exact .inl (by rw [hc, List.length_singleton]; omega)
    · exact .inr (by rw [hc, hrest, List.singleton_append])

end Escaping

/-! ### Text and values -/

theorem textEntities_isEscaping : IsEscaping textEntities where
  apart := by decide
  ampersand := by decide
  marked := by
    simp only [textEntities, List.forall_mem_cons]
    refine ⟨⟨"amp;".toList, rfl, ?_⟩, ⟨"nbsp;".toList, rfl, ?_⟩, ⟨"lt;".toList, rfl, ?_⟩,
      ⟨"gt;".toList, rfl, ?_⟩, List.forall_mem_nil _⟩
    all_goals simp [Entries.keys]
  undone := by
    simp only [textEntities, List.forall_mem_cons]
    exact ⟨fun _ => rfl, fun _ => rfl, fun _ => rfl, fun _ => rfl, List.forall_mem_nil _⟩

theorem valueEntities_isEscaping : IsEscaping valueEntities where
  apart := by decide
  ampersand := by decide
  marked := by
    simp only [valueEntities, List.forall_mem_cons]
    refine ⟨⟨"amp;".toList, rfl, ?_⟩, ⟨"nbsp;".toList, rfl, ?_⟩, ⟨"quot;".toList, rfl, ?_⟩,
      List.forall_mem_nil _⟩
    all_goals simp [Entries.keys]
  undone := by
    simp only [valueEntities, List.forall_mem_cons]
    exact ⟨fun _ => rfl, fun _ => rfl, fun _ => rfl, List.forall_mem_nil _⟩

theorem unescape_escapeTextChars (cs : List Char) : unescape (escapeTextChars cs) = cs :=
  textEntities_isEscaping.unescape_replacingAll cs

theorem unescape_escapeValueChars (cs : List Char) : unescape (escapeValueChars cs) = cs :=
  valueEntities_isEscaping.unescape_replacingAll cs

/-- Escaped text holds nothing that could begin a tag. -/
theorem not_mem_escapeTextChars (cs : List Char) : ∀ x ∈ escapeTextChars cs, x ≠ '<' := by
  rintro _ hx rfl
  cases textEntities_isEscaping.eq_ampersand_of_mem hx (by decide)

/-- Escaped values hold nothing that could end them. -/
theorem not_mem_escapeValueChars (cs : List Char) : ∀ x ∈ escapeValueChars cs, x ≠ '"' := by
  rintro _ hx rfl
  cases valueEntities_isEscaping.eq_ampersand_of_mem hx (by decide)

theorem escapeTextChars_eq_nil_iff : escapeTextChars cs = [] ↔ cs = [] := by
  constructor
  · intro h
    rw [← unescape_escapeTextChars cs, h]
    rfl
  · rintro rfl
    rfl

theorem length_escapeTextChars (cs : List Char) :
    cs.length < (escapeTextChars cs).length ∨ escapeTextChars cs = cs :=
  textEntities_isEscaping.length_replacingAll cs

/-- A function escapes by a table. -/
structure Escapes (table : List (Char × String)) (escape : String → String) : Prop where
  /-- Each character is replaced by itself, wherever it stands. -/
  images : ∀ s, (escape s).toList = s.toList.flatMap (imageOf table)
  append : ∀ s t, escape (s ++ t) = escape s ++ escape t
  no_raw : ∀ s, ∀ c ∈ (escape s).toList, c ∈ Entries.keys table → c = '&'
  entity : ∀ s before after, (escape s).toList = before ++ '&' :: after →
    ∃ entry ∈ table, entry.2.toList <+: '&' :: after
  unescaped : ∀ s, String.ofList (unescape (escape s).toList) = s
  injective : Function.Injective escape

theorem IsEscaping.escapes (h : IsEscaping table) :
    Escapes table fun s => String.ofList (replacingAll table s.toList) := by
  have hunescaped : Function.LeftInverse (fun t : String => String.ofList (unescape t.toList))
      fun s => String.ofList (replacingAll table s.toList) := by
    intro s
    simp only [String.toList_ofList, h.unescape_replacingAll, String.ofList_toList]
  refine ⟨fun s => ?_, fun s t => ?_, fun s c hc hkey => ?_, fun s before after hcut => ?_,
    hunescaped, hunescaped.injective⟩
  · rw [String.toList_ofList, replacingAll_eq_flatMap h.apart]
  · rw [String.toList_append, replacingAll_eq_flatMap h.apart, replacingAll_eq_flatMap h.apart,
      replacingAll_eq_flatMap h.apart, List.flatMap_append, String.ofList_append]
  · rw [String.toList_ofList] at hc
    exact h.eq_ampersand_of_mem hc hkey
  · rw [String.toList_ofList] at hcut
    exact h.entity_of_ampersand hcut

/-- Escaping replaces each character by itself, though its replacements are made one after the other.
Nothing is left to escape but ampersands, each of which begins an entity that has been put in; from
these the text can be told. -/
theorem escape_reversible :
    Escapes [('&', "&amp;"), ('\xa0', "&nbsp;"), ('<', "&lt;"), ('>', "&gt;")] escapeText ∧
    Escapes [('&', "&amp;"), ('\xa0', "&nbsp;"), ('"', "&quot;")] escapeAttribute :=
  ⟨textEntities_isEscaping.escapes, valueEntities_isEscaping.escapes⟩

/-- What looks like an entity is escaped as any other text. -/
example : escapeText "<&lt;>" = "&lt;&amp;lt;&gt;" := by decide

/-! ### Cutting -/

/-- What stands before a character, and what after it. -/
def cut (stop : Char) : List Char → Option (List Char × List Char)
  | [] => none
  | c :: rest => if c = stop then some ([], rest) else (cut stop rest).map fun p => (c :: p.1, p.2)

theorem cut_append (h : ∀ c ∈ cs, c ≠ stop) (rest : List Char) :
    cut stop (cs ++ stop :: rest) = some (cs, rest) := by
  induction cs with
  | nil => rw [List.nil_append, cut, if_pos rfl]
  | cons c cs ih =>
    obtain ⟨hc, hcs⟩ := List.forall_mem_cons.mp h
    rw [List.cons_append, cut, if_neg hc, ih hcs]
    rfl

theorem cut_length (h : cut stop cs = some (value, left)) : left.length < cs.length := by
  induction cs generalizing value with
  | nil => cases h
  | cons c cs ih =>
    rw [cut] at h
    split at h
    · cases h
      exact Nat.lt_succ_self _
    · obtain ⟨⟨before, after⟩, hcut, heq⟩ := Option.map_eq_some_iff.mp h
      cases heq
      exact Nat.lt_succ_of_lt (ih hcut)

/-- Up to the closing quote an escaped value can be told, and what stands after it. -/
theorem escapeValueChars_append_inj {ds x y : List Char}
    (h : escapeValueChars cs ++ '"' :: x = escapeValueChars ds ++ '"' :: y) : cs = ds ∧ x = y := by
  have hcut := congrArg (cut '"') h
  rw [cut_append (not_mem_escapeValueChars cs), cut_append (not_mem_escapeValueChars ds),
    Option.some_inj, Prod.mk.injEq] at hcut
  obtain ⟨hvalue, hrest⟩ := hcut
  have hundone := congrArg unescape hvalue
  rw [unescape_escapeValueChars, unescape_escapeValueChars] at hundone
  exact ⟨hundone, hrest⟩

end EditorBlocks.Markup
