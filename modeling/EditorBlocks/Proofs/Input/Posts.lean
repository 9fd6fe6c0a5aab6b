import EditorBlocks.Proofs.Attribute.Lookups
import EditorBlocks.Proofs.Input.Escaping
import EditorBlocks.Proofs.Input.Loading
import EditorBlocks.Proofs.Text.Spelling
/-! Posts whose numbers are spelled in text: the last spelling of a number gives the values of the
post. -/

namespace EditorBlocks.Metadata
variable {m n : Metadata} {key name : String} {values : Value} {post : Int}

/-- An entry whose key is a name. -/
def named? : Value × Value → Option (String × Value)
  | (.str k, v) => some (k, v)
  | _ => none

/-- The value that data gives under a name, the last one if it gives several. -/
def valueUnder (name : String) (values : Value) : Option Value :=
  (entries? values).bind fun es => (es.findRev? fun e => e.1.isName name).map Prod.snd

/-- The last entry whose key spells this number. -/
def lastSpelled (post : Int) (entries : List (String × Value)) : Option (String × Value) :=
  entries.findRev? fun e => Text.parseInt? e.1 = some post

/-! ### One entry -/

theorem find?_namedEntries (name : String) (es : List (Value × Value)) :
    Entries.find? name (namedEntries es) = (es.findRev? fun e => e.1.isName name).map Prod.snd := by
  have hentries : namedEntries es = Entries.ofList (es.filterMap named?) := rfl
  have hname : ∀ e, (named? e).any (fun e => decide (e.1 = name)) = e.1.isName name := by
    rintro ⟨k, v⟩
    cases k <;> rfl
  rw [hentries, Entries.find?_ofList, List.findRev?_eq_find?_reverse,
    List.findRev?_eq_find?_reverse, ← List.filterMap_reverse, List.find?_filterMap]
  simp only [hname]
  cases hfind : es.reverse.find? fun e => e.1.isName name with
  | none => rfl
  | some e =>
    obtain ⟨k, v⟩ := e
    have hk := List.find?_some hfind
    cases k with
    | str k => rfl
    | _ => cases hk

theorem postNumber_str (key : String) : postNumber (.str key) =
    ((Text.parseInt? key).map Except.ok).getD (.error (.invalidPost (.str key))) := rfl

theorem isPost_str_iff : IsPost (.str key) values ↔
    (Text.parseInt? key).isSome ∧ (entries? values).isSome := by
  have hnumber : (∃ post, postNumber (.str key) = .ok post) ↔ (Text.parseInt? key).isSome := by
    rw [postNumber_str]
    cases Text.parseInt? key <;> simp
  exact ⟨fun h => ⟨hnumber.mp h.numbered, h.listed⟩, fun h => ⟨hnumber.mpr h.1, h.2⟩⟩

theorem addPost_str_of_not_isPost (h : ¬IsPost (.str key) values) :
    m.addPost (.str key) values = .error (.invalidPost (.str key)) := by
  rw [isPost_str_iff, not_and_or, Option.not_isSome_iff_eq_none,
    Option.not_isSome_iff_eq_none] at h
  unfold addPost
  cases hvalues : entries? values with
  | none => rfl
  | some es =>
    rw [hvalues] at h
    rw [postNumber_str, h.resolve_right (Option.some_ne_none es)]
    rfl

/-- The values of an entry are those of its post in place of all that were there; no other post
changes. -/
theorem find?_of_addPost (h : m.addPost (.str key) values = .ok n) (post : Int) (name : String) :
    n.find? post name =
      if Text.parseInt? key = some post then valueUnder name values else m.find? post name := by
  unfold addPost at h
  rw [valueUnder]
  cases hvalues : entries? values with
  | none =>
    rw [hvalues] at h
    cases h
  | some es =>
    rw [hvalues, postNumber_str] at h
    cases hnumber : Text.parseInt? key with
    | none =>
      rw [hnumber] at h
      cases h
    | some number =>
      rw [hnumber] at h
      cases h
      rw [Option.bind_some, ← find?_namedEntries, find?, find?]
      by_cases hpost : number = post
      · rw [if_pos (congrArg some hpost), hpost, Entries.find?_put_self, Option.bind_some]
      · rw [if_neg fun h => hpost (Option.some.inj h), Entries.find?_put_ne (Ne.symm hpost)]

/-! ### All entries -/

section Entries
variable {entries before after : List (String × Value)} {e : String × Value}

/-- The entries of metadata that is given under texts, added one after another. -/
def addAll (m : Metadata) (entries : List (String × Value)) : Except InputError Metadata :=
  entries.foldlM (fun m e => m.addPost (.str e.1) e.2) m

theorem ofData_object (entries : List (String × Value)) :
    ofData (.object entries) = empty.addAll entries := by
  rw [Value.object, ofData, List.foldlM_map]
  rfl

theorem addAll_cons_eq_ok_iff : m.addAll (e :: entries) = .ok n ↔
    ∃ m', m.addPost (.str e.1) e.2 = .ok m' ∧ m'.addAll entries = .ok n := by
  rw [addAll, List.foldlM_cons, bind_eq_ok]
  rfl

theorem exists_addAll_iff :
    (∃ n, m.addAll entries = .ok n) ↔ ∀ e ∈ entries, IsPost (.str e.1) e.2 := by
  induction entries generalizing m with
  | nil => exact iff_of_true ⟨m, rfl⟩ (List.forall_mem_nil _)
  | cons e rest ih =>
    simp only [addAll_cons_eq_ok_iff, List.forall_mem_cons]
    constructor
    · rintro ⟨n, m', hm', hn⟩
      exact ⟨addPost_eq_ok_iff.mp ⟨m', hm'⟩, ih.mp ⟨n, hn⟩⟩
    · rintro ⟨he, hrest⟩
      obtain ⟨m', hm'⟩ := addPost_eq_ok_iff.mpr he
      obtain ⟨n, hn⟩ := ih.mpr hrest
      exact ⟨n, m', hm', hn⟩

/-- The first entry that cannot be used ends the adding, whatever follows it. -/
theorem addAll_of_not_isPost (hbefore : ∀ e ∈ before, IsPost (.str e.1) e.2)
    (h : ¬IsPost (.str e.1) e.2) :
    m.addAll (before ++ e :: after) = .error (.invalidPost (.str e.1)) := by
  obtain ⟨m', hm'⟩ := exists_addAll_iff.mpr hbefore
  rw [addAll] at hm' ⊢
  rw [List.foldlM_append, hm']
  change m'.addAll (e :: after) = _
  rw [addAll, List.foldlM_cons, addPost_str_of_not_isPost h]
  rfl

/-- A post has the values of the last entry that spells its number, and those it had before if no
entry does. -/
theorem find?_of_addAll (h : m.addAll entries = .ok n) (post : Int) (name : String) :
    n.find? post name = ((lastSpelled post entries).map fun e => valueUnder name e.2).getD
      (m.find? post name) := by
  induction entries generalizing m with
  | nil =>
    cases h
    rfl
  | cons e rest ih =>
    obtain ⟨m', hm', hn⟩ := addAll_cons_eq_ok_iff.mp h
    rw [ih hn, find?_of_addPost hm', lastSpelled, lastSpelled, List.findRev?]
    cases rest.findRev? fun e => Text.parseInt? e.1 = some post with
    | some last => rfl
    | none => by_cases hpost : Text.parseInt? e.1 = some post <;> simp [hpost]

theorem find?_of_ofData (h : ofData (.object entries) = .ok m) (post : Int) (name : String) :
    m.find? post name = (lastSpelled post entries).bind fun e => valueUnder name e.2 := by
  rw [ofData_object] at h
  rw [find?_of_addAll h]
  cases lastSpelled post entries <;> rfl

end Entries

/-- Metadata given under texts is used exactly if each key spells a whole number and each value lists
entries; else the first entry that cannot be used is named. A post has exactly the values of the last
entry that spells its number, where null stands for a value that is not there. A text spells a number
if it has a sign and digits of any scripts, perhaps with underscores, and blanks around them; two
texts spell the same number exactly if they have the same digits but for zeros before them and, unless
all are zeros, the same sign. -/
theorem lookup_lastSpelled (entries : List (String × Value)) :
    ((∃ m, ofData (.object entries) = .ok m) ↔
      ∀ e ∈ entries, (Text.parseInt? e.1).isSome ∧ (entries? e.2).isSome) ∧
    (∀ before e after, entries = before ++ e :: after →
      (∀ e ∈ before, (Text.parseInt? e.1).isSome ∧ (entries? e.2).isSome) →
      ¬((Text.parseInt? e.1).isSome ∧ (entries? e.2).isSome) →
      ofData (.object entries) = .error (.invalidPost (.str e.1)) ∧
        (InputError.invalidPost (.str e.1)).message? =
          some ("Invalid post ID in metadata: " ++ Text.quoted e.1)) ∧
    (∀ m, ofData (.object entries) = .ok m → ∀ post name,
      m.find? post name = (lastSpelled post entries).bind (fun e => valueUnder name e.2) ∧
      m.tells post name =
        ((lastSpelled post entries).bind fun e => valueUnder name e.2).getD .null) ∧
    (∀ s n, Text.parseInt? s = some n ↔ ∃ negative digits, Text.Spells s negative digits ∧
      digits.length ≤ Text.digitLimit ∧ n = Text.signedNumber negative digits) ∧
    ∀ s t negative negative' digits digits',
      Text.Spells s negative digits → digits.length ≤ Text.digitLimit →
      Text.Spells t negative' digits' → digits'.length ≤ Text.digitLimit →
      (Text.parseInt? s = Text.parseInt? t ↔ Text.significant digits = Text.significant digits' ∧
        (negative = negative' ∨ Text.significant digits = [])) := by
  have hpost : ∀ e : String × Value, IsPost (.str e.1) e.2 ↔
      (Text.parseInt? e.1).isSome ∧ (entries? e.2).isSome := fun e => isPost_str_iff
  simp only [← hpost]
  refine ⟨?_, ?_, fun m hm post name => ?_, fun s n => Text.parseInt?_eq_some_iff, ?_⟩
  · rw [ofData_object, exists_addAll_iff]
  · rintro before e after rfl hbefore he
    exact ⟨(ofData_object _).trans (addAll_of_not_isPost hbefore he), rfl⟩
  · have hfind := find?_of_ofData hm post name
    exact ⟨hfind, by rw [tells, hfind]⟩
  · intro s t negative negative' digits digits' hs hdigits ht hdigits'
    exact Text.parseInt?_eq_parseInt?_iff hs ht hdigits hdigits'

/-- Two posts, the first of them again under another spelling and with its values as a list. -/
def respelledPosts : List (String × Value) :=
  [("7", .object [("color", .str "red"), ("size", .int 2)]), ("12", .object [("size", .int 5)]),
    (" +0_\u0667\u2003", .list [.list [.str "color", .null]])]

theorem respelledPosts_lookup :
    (∃ m, ofData (.object respelledPosts) = .ok m ∧ m.find? 7 "size" = none ∧
      m.find? 7 "color" = some .null ∧ m.tells 7 "color" = .null ∧
      m.find? 12 "size" = some (.int 5) ∧ m.find? 0 "size" = none) ∧
    Text.parseInt? "7" = Text.parseInt? " +0_\u0667\u2003" ∧
    ofData (.object (respelledPosts ++ [("1__2", .object []), ("13", .null)])) =
      .error (.invalidPost (.str "1__2")) := by
  have husable : ∀ e ∈ respelledPosts, (Text.parseInt? e.1).isSome ∧ (entries? e.2).isSome := by
    simp only [respelledPosts, List.forall_mem_cons]
    decide +kernel
  have hseven : Text.Spells "7" false [7] :=
    ⟨[], ['7'], [], rfl, List.forall_mem_nil _, List.forall_mem_nil _, .bare (.last (by decide))⟩
  have hzeros : Text.Spells " +0_\u0667\u2003" false [0, 7] :=
    ⟨[' '], ['+', '0', '_', '\u0667'], ['\u2003'], rfl, List.forall_mem_singleton.mpr rfl,
      List.forall_mem_singleton.mpr rfl, .plus (.divided (by decide) (.last (by decide)))⟩
  obtain ⟨hok, -, hfind, -, hsame⟩ := lookup_lastSpelled respelledPosts
  obtain ⟨m, hm⟩ := hok.mpr husable
  refine ⟨⟨m, hm, ?_, ?_, ?_, ?_, ?_⟩, ?_, ?_⟩
  · rw [(hfind m hm 7 "size").1]
    decide +kernel
  · rw [(hfind m hm 7 "color").1]
    rfl
  · rw [(hfind m hm 7 "color").2]
    rfl
  · rw [(hfind m hm 12 "size").1]
    rfl
  · rw [(hfind m hm 0 "size").1]
    rfl
  · exact (hsame _ _ _ _ _ _ hseven (by decide) hzeros (by decide)).mpr (by decide)
  · obtain ⟨-, hrefused, -⟩ := lookup_lastSpelled
      (respelledPosts ++ [("1__2", .object []), ("13", .null)])
    exact (hrefused respelledPosts _ _ rfl husable (by decide +kernel)).1

end EditorBlocks.Metadata
