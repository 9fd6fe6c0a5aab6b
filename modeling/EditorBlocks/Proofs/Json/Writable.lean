import EditorBlocks.Proofs.Json.Strings
/-! Data that JSON text can hold and give back: it is always written, and what is written is read as
the same data. -/

namespace EditorBlocks

namespace Value

theorem object_injective : Function.Injective object := by
  have hmember : Function.Injective fun m : String × Value => (str m.1, m.2) := by
    rintro ⟨k, v⟩ ⟨k', v'⟩ h
    cases h
    rfl
  intro members members' h
  exact List.map_injective_iff.mpr hmember (map.inj h)

/-- The name that an entry has under a name. -/
def entryName? : Value × Value → Option String
  | (str k, _) => some k
  | _ => none

mutual
/-- Data of JSON: numbers are finite and not too long, and an object has each name once. -/
def isJson : Value → Bool
  | null | bool _ | str _ => true
  | int n => Text.fitsDigitLimit n
  | float x => x.isProper
  | list items => areJson items
  | map entries => entriesJson entries && (entries.filterMap entryName?).Nodup
  | date _ | moment _ | bytes _ | set _ | pair _ _ => false

def areJson : List Value → Bool
  | [] => true
  | item :: rest => isJson item && areJson rest

def entryJson : Value × Value → Bool
  | (str _, v) => isJson v
  | _ => false

def entriesJson : List (Value × Value) → Bool
  | [] => true
  | e :: rest => entryJson e && entriesJson rest
end

theorem areJson_iff {items : List Value} : areJson items ↔ ∀ v ∈ items, v.isJson := by
  induction items with
  | nil => simp [areJson]
  | cons v rest ih => simp [areJson, ih]

theorem isJson_list {items : List Value} : (list items).isJson ↔ ∀ v ∈ items, v.isJson := by
  rw [isJson, areJson_iff]

theorem entriesJson_iff {es : List (Value × Value)} : entriesJson es ↔
    ∃ members : List (String × Value), es = members.map (fun m => (str m.1, m.2)) ∧
      ∀ m ∈ members, m.2.isJson := by
  induction es with
  | nil => exact ⟨fun _ => ⟨[], rfl, by simp⟩, fun _ => rfl⟩
  | cons e rest ih =>
    rw [entriesJson, Bool.and_eq_true, ih]
    constructor
    · rintro ⟨he, members, rfl, hm⟩
      obtain ⟨k, v⟩ := e
      cases k with
      | str name =>
        refine ⟨(name, v) :: members, rfl, List.forall_mem_cons.mpr ⟨?_, hm⟩⟩
        rwa [entryJson] at he
      | _ => cases he
    · rintro ⟨members, hes, hm⟩
      cases members with
      | nil => cases hes
      | cons m members =>
        obtain ⟨rfl, rfl⟩ := List.cons.inj hes
        obtain ⟨hv, hm⟩ := List.forall_mem_cons.mp hm
        exact ⟨by simpa [entryJson] using hv, members, rfl, hm⟩

theorem filterMap_entryName? (members : List (String × Value)) :
    (members.map (fun m => (str m.1, m.2))).filterMap entryName? = Entries.keys members := by
  rw [List.filterMap_map, Entries.keys]
  exact congrFun List.filterMap_eq_map members

theorem isJson_object {members : List (String × Value)} : (object members).isJson ↔
    (Entries.keys members).Nodup ∧ ∀ m ∈ members, m.2.isJson := by
  rw [object, isJson, Bool.and_eq_true, filterMap_entryName?, decide_eq_true_eq, entriesJson_iff,
    and_comm]
  refine and_congr_right fun _ => ⟨?_, fun h => ⟨members, rfl, h⟩⟩
  rintro ⟨members', hsame, h⟩
  rwa [object_injective (congrArg map hsame)]

/-- A mapping of JSON is an object. -/
theorem exists_object {es : List (Value × Value)} (h : (map es).isJson) :
    ∃ members, map es = object members := by
  rw [isJson, Bool.and_eq_true] at h
  obtain ⟨members, rfl, -⟩ := entriesJson_iff.mp h.1
  exact ⟨members, rfl⟩

end Value

namespace Json
variable {layout : Layout} {left : List Char}

theorem all_isSpace_lineBreak (layout : Layout) (depth : Nat) :
    (layout.lineBreak depth).all isSpace := by
  unfold Layout.lineBreak
  split
  · rw [List.all_cons, List.all_replicate]
    split <;> rfl
  · rfl

/-- A comma, and blanks after it. -/
theorem comma_eq (layout : Layout) (depth : Nat) :
    ∃ blanks, layout.comma depth = ',' :: blanks ∧ blanks.all isSpace := by
  unfold Layout.comma
  split
  · exact ⟨_, rfl, all_isSpace_lineBreak layout depth⟩
  · exact ⟨_, rfl, rfl⟩

/-- Blanks are skipped up to a character that is none. -/
theorem skipSpace_append {blanks : List Char} (hb : blanks.all isSpace) {c : Char}
    (hc : isSpace c = false) (cs : List Char) (position : Nat) :
    (Rest.mk (blanks ++ c :: cs) position).skipSpace = ⟨c :: cs, position + blanks.length⟩ := by
  have htake : (blanks ++ c :: cs).takeWhile isSpace = blanks := by
    rw [List.takeWhile_append_of_pos (List.all_eq_true.mp hb), List.takeWhile_cons, hc]
    simp
  rw [Rest.skipSpace, Rest.advance]
  simp only [htake, List.drop_left]

/-- What a reader makes of a text, whatever comes after it that is not part of a number. -/
structure ReadsBack (v : Value) (cs : List Char) : Prop where
  starts : ∃ c rest, cs = c :: rest ∧ isSpace c = false ∧ c ≠ ']' ∧ c ≠ '\uFEFF'
  reads : ∀ fuel left position, cs.length ≤ fuel → NoNumber left →
    Yields (readValue fuel ⟨cs ++ left, position⟩) v left

/-- What follows an item of a list. -/
def afterItem (fuel : Nat) (r : Rest) (items : List Value) : Reading (Value × Rest) :=
  let r := r.skipSpace
  match r.chars with
  | ']' :: _ => return (.list items.reverse, r.advance 1)
  | ',' :: _ => readItems fuel (r.advance 1).skipSpace items
  | _ => fail .expectedComma r.position

theorem readItems_succ (fuel : Nat) (r : Rest) (items : List Value) :
    readItems (fuel + 1) r items =
      readValue fuel r >>= fun (item, r) => afterItem fuel r (item :: items) := by
  rw [readItems]
  rfl

/-- What follows a member of an object. -/
def afterMember (fuel : Nat) (r : Rest) (members : List (String × Value)) :
    Reading (Value × Rest) :=
  let r := r.skipSpace
  match r.chars with
  | '\x7d' :: _ => return (.object members, r.advance 1)
  | ',' :: _ => readMembers fuel (r.advance 1).skipSpace members
  | _ => fail .expectedComma r.position

section After
variable {blanks : List Char} (hb : blanks.all isSpace) (fuel position : Nat)
include hb

theorem afterItem_close (left : List Char) (items : List Value) :
    Yields (afterItem fuel ⟨blanks ++ ']' :: left, position⟩ items) (.list items.reverse) left := by
  rw [afterItem, skipSpace_append hb rfl]
  exact ⟨position + blanks.length + 1, rfl⟩

theorem afterItem_comma {c : Char} (hc : isSpace c = false) (cs : List Char) (items : List Value) :
    afterItem fuel ⟨',' :: (blanks ++ c :: cs), position⟩ items =
      readItems fuel ⟨c :: cs, position + 1 + blanks.length⟩ items := by
  rw [← skipSpace_append hb hc]
  rfl

theorem afterMember_close (left : List Char) (members : List (String × Value)) :
    Yields (afterMember fuel ⟨blanks ++ '\x7d' :: left, position⟩ members) (.object members)
      left := by
  rw [afterMember, skipSpace_append hb rfl]
  exact ⟨position + blanks.length + 1, rfl⟩

theorem afterMember_comma {c : Char} (hc : isSpace c = false) (cs : List Char)
    (members : List (String × Value)) :
    afterMember fuel ⟨',' :: (blanks ++ c :: cs), position⟩ members =
      readMembers fuel ⟨c :: cs, position + 1 + blanks.length⟩ members := by
  rw [← skipSpace_append hb hc]
  rfl

theorem readValue_items {c : Char} (hc : isSpace c = false) (hclose : c ≠ ']') (cs : List Char) :
    readValue (fuel + 1) ⟨'[' :: (blanks ++ c :: cs), position⟩ =
      readItems fuel ⟨c :: cs, position + 1 + blanks.length⟩ [] := by
  have hskip := skipSpace_append hb hc cs (position + 1)
  rw [readValue]
  change (if (Rest.mk (blanks ++ c :: cs) (position + 1)).skipSpace.chars.head? == some ']' then _
    else readItems fuel (Rest.mk (blanks ++ c :: cs) (position + 1)).skipSpace []) = _
  rw [hskip, if_neg (by simpa using hclose)]

theorem readValue_members (cs : List Char) :
    readValue (fuel + 1) ⟨'\x7b' :: (blanks ++ '"' :: cs), position⟩ =
      readMembers fuel ⟨'"' :: cs, position + 1 + blanks.length⟩ [] := by
  have hskip := skipSpace_append hb (show isSpace '"' = false from rfl) cs (position + 1)
  rw [readValue]
  change (if (Rest.mk (blanks ++ '"' :: cs) (position + 1)).skipSpace.chars.head? == some '\x7d'
    then _ else readMembers fuel (Rest.mk (blanks ++ '"' :: cs) (position + 1)).skipSpace []) = _
  rw [hskip, if_neg (by simp)]

end After

theorem readsBack_null : ReadsBack .null "null".toList := by
  refine ⟨⟨'n', _, rfl, rfl, by decide, by decide⟩, fun fuel left position hfuel _ => ?_⟩
  obtain ⟨fuel, rfl⟩ := Nat.exists_eq_succ_of_ne_zero (Nat.ne_zero_of_lt hfuel)
  exact ⟨position + 4, rfl⟩

theorem readsBack_bool (b : Bool) : ReadsBack (.bool b) (if b then "true" else "false").toList := by
  cases b with
  | false =>
    refine ⟨⟨'f', _, rfl, rfl, by decide, by decide⟩, fun fuel left position hfuel _ => ?_⟩
    obtain ⟨fuel, rfl⟩ := Nat.exists_eq_succ_of_ne_zero (Nat.ne_zero_of_lt hfuel)
    exact ⟨position + 5, rfl⟩
  | true =>
    refine ⟨⟨'t', _, rfl, rfl, by decide, by decide⟩, fun fuel left position hfuel _ => ?_⟩
    obtain ⟨fuel, rfl⟩ := Nat.exists_eq_succ_of_ne_zero (Nat.ne_zero_of_lt hfuel)
    exact ⟨position + 4, rfl⟩

/-- A number is told from the other values by its first characters. -/
theorem Numeral.IsWritten.starts {n : Numeral} (h : n.IsWritten) : ∃ c rest, n.text = c :: rest ∧
    (Text.isAsciiDigit c ∨ c = '-' ∧ ∃ d ds, rest = d :: ds ∧ Text.isAsciiDigit d) := by
  have hwhole : ∃ d ds, n.whole = d :: ds ∧ Text.isAsciiDigit d := by
    rcases h.whole with hw | ⟨hall, d, ds, hw, -⟩
    · exact ⟨'0', [], hw, rfl⟩
    · rw [hw, List.all_cons, Bool.and_eq_true] at hall
      exact ⟨d, ds, hw, hall.1⟩
  obtain ⟨d, ds, hw, hd⟩ := hwhole
  unfold text sign
  rw [hw]
  cases n.negative with
  | true => exact ⟨'-', _, rfl, .inr ⟨rfl, d, _, rfl, hd⟩⟩
  | false => exact ⟨d, _, rfl, .inl hd⟩

/-- No name begins as a number does. -/
theorem readWord?_number {n : Numeral} (h : n.IsWritten) (left : List Char) (position : Nat) :
    readWord? ⟨n.text ++ left, position⟩ = none := by
  have hwords : ∀ w ∈ words, ∃ c d ds, w.1.toList = c :: d :: ds ∧
      Text.isAsciiDigit c = false ∧ Text.isAsciiDigit d = false := by
    simp only [words, List.forall_mem_cons]
    refine ⟨?_, ?_, ?_, ?_, ?_, ?_, by simp⟩ <;> exact ⟨_, _, _, rfl, by decide, by decide⟩
  rw [readWord?, Option.map_eq_none_iff, List.find?_eq_none]
  intro w hw hprefix
  obtain ⟨c, d, ds, hc, hfirst, hsecond⟩ := hwords w hw
  obtain ⟨c', rest, htext, hstart⟩ := h.starts
  rw [hc, htext, List.cons_append, List.isPrefixOf_cons_cons, Bool.and_eq_true,
    beq_iff_eq] at hprefix
  obtain ⟨rfl, hprefix⟩ := hprefix
  rcases hstart with hstart | ⟨-, d', ds', rfl, hd'⟩
  · rw [hfirst] at hstart
    cases hstart
  · rw [List.cons_append, List.isPrefixOf_cons_cons, Bool.and_eq_true, beq_iff_eq] at hprefix
    rw [← hprefix.1, hsecond] at hd'
    cases hd'

theorem readsBack_number {cs : List Char} {v : Value} (h : Spells cs v) : ReadsBack v cs := by
  obtain ⟨n, hn, rfl, hreads⟩ := h
  obtain ⟨c, rest, htext, hstart⟩ := hn.starts
  have hother : ∀ d, Text.isAsciiDigit d = false → d ≠ '-' → c ≠ d := by
    rintro d hd hminus rfl
    rcases hstart with hstart | ⟨hsign, -⟩
    · rw [hd] at hstart
      cases hstart
    · exact hminus hsign
  refine ⟨⟨c, rest, htext, ?_, hother _ rfl (by decide), hother _ rfl (by decide)⟩,
    fun fuel left position hfuel hleft => ?_⟩
  · simp only [isSpace, Bool.or_eq_false_iff, beq_eq_false_iff_ne]
    exact ⟨⟨⟨hother _ rfl (by decide), hother _ rfl (by decide)⟩, hother _ rfl (by decide)⟩,
      hother _ rfl (by decide)⟩
  · rw [htext, List.length_cons] at hfuel
    obtain ⟨fuel, rfl⟩ := Nat.exists_eq_succ_of_ne_zero (Nat.ne_zero_of_lt hfuel)
    have hword := readWord?_number hn left position
    have hread := hreads left position hleft
    rw [htext, List.cons_append] at hword hread ⊢
    rw [readValue]
    split
    · rename_i heq
      exact absurd (List.cons.inj heq).1 (hother _ rfl (by decide))
    · rename_i heq
      exact absurd (List.cons.inj heq).1 (hother _ rfl (by decide))
    · rename_i heq
      exact absurd (List.cons.inj heq).1 (hother _ rfl (by decide))
    · rw [hword]
      exact hread

theorem readsBack_string (charset : Charset) (s : String) :
    ReadsBack (.str s) (stringChars charset s) := by
  refine ⟨⟨'"', _, rfl, rfl, by decide, by decide⟩, fun fuel left position hfuel _ => ?_⟩
  obtain ⟨fuel, rfl⟩ := Nat.exists_eq_succ_of_ne_zero (Nat.ne_zero_of_lt hfuel)
  obtain ⟨body, hbody, hread⟩ := readString_stringChars charset s left position
  rw [hbody, readValue]
  exact hread.bind fun position' => ⟨position', rfl⟩

theorem noNumber_isSpace {c : Char} (h : isSpace c) :
    Text.isAsciiDigit c = false ∧ c ≠ '.' ∧ c ≠ 'e' ∧ c ≠ 'E' := by
  simp only [isSpace, Bool.or_eq_true, beq_iff_eq] at h
  rcases h with ((rfl | rfl) | rfl) | rfl <;> decide

/-- After an item or a member there is another one, or blanks and the end. -/
theorem noNumber_after {cs blanks : List Char} (hcs : cs = [] ∨ ∃ rest, cs = ',' :: rest)
    (hb : blanks.all isSpace) {close : Char} (hc : close = ']' ∨ close = '\x7d') :
    NoNumber (cs ++ (blanks ++ close :: left)) := by
  have hclose : Text.isAsciiDigit close = false ∧ close ≠ '.' ∧ close ≠ 'e' ∧ close ≠ 'E' := by
    rcases hc with rfl | rfl <;> decide
  rcases hcs with rfl | ⟨rest, rfl⟩
  · cases blanks with
    | nil =>
      rintro c ⟨⟩
      exact hclose
    | cons blank blanks =>
      rintro c ⟨⟩
      rw [List.all_cons, Bool.and_eq_true] at hb
      exact noNumber_isSpace hb.1
  · rintro c ⟨⟩
    decide

/-! ### Lists -/

/-- The items of a list after the first one, as they are read up to the end of the list. -/
structure ItemsReadBack (items : List Value) (cs : List Char) : Prop where
  starts : cs = [] ∨ ∃ rest, cs = ',' :: rest
  reads : ∀ fuel blanks left position before, cs.length ≤ fuel → blanks.all isSpace →
    Yields (afterItem fuel ⟨cs ++ (blanks ++ ']' :: left), position⟩ before)
      (.list (before.reverse ++ items)) left

theorem itemsReadBack_nil : ItemsReadBack [] [] := by
  refine ⟨.inl rfl, fun fuel blanks left position before _ hb => ?_⟩
  rw [List.append_nil]
  exact afterItem_close hb fuel position left before

section Items
variable {item : Value} {items : List Value} {first others : List Char}

theorem readItems_yields (left : List Char) (hfirst : ReadsBack item first)
    (hothers : ItemsReadBack items others) {fuel : Nat}
    (hfuel : first.length + others.length < fuel) {blanks : List Char}
    (hb : blanks.all isSpace) (position : Nat) (before : List Value) :
    Yields (readItems fuel ⟨first ++ (others ++ (blanks ++ ']' :: left)), position⟩ before)
      (.list (before.reverse ++ item :: items)) left := by
  obtain ⟨fuel, rfl⟩ := Nat.exists_eq_succ_of_ne_zero (Nat.ne_zero_of_lt hfuel)
  rw [readItems_succ]
  refine (hfirst.reads fuel _ position (by omega)
    (noNumber_after hothers.starts hb (.inl rfl))).bind fun position' => ?_
  have hrest := hothers.reads fuel blanks left position' (item :: before) (by omega) hb
  rwa [List.reverse_cons, List.append_assoc] at hrest

theorem itemsReadBack_cons (layout : Layout) (depth : Nat) (hfirst : ReadsBack item first)
    (hothers : ItemsReadBack items others) :
    ItemsReadBack (item :: items) (layout.comma depth ++ first ++ others) := by
  obtain ⟨gap, hcomma, hgap⟩ := comma_eq layout depth
  obtain ⟨c, rest, hc, hspace, -⟩ := hfirst.starts
  rw [hcomma]
  refine ⟨.inr ⟨_, rfl⟩, fun fuel blanks left position before hfuel hb => ?_⟩
  simp only [List.length_append, List.length_cons] at hfuel
  have hread := readItems_yields left hfirst hothers (show _ < fuel by omega) hb
    (position + 1 + gap.length) before
  rw [hc, List.cons_append, ← afterItem_comma hgap fuel position hspace] at hread
  simpa only [hc, List.cons_append, List.append_assoc] using hread

theorem readsBack_list (layout : Layout) (depth : Nat) (hfirst : ReadsBack item first)
    (hothers : ItemsReadBack items others) : ReadsBack (.list (item :: items))
      ('[' :: (layout.lineBreak (depth + 1) ++ first ++ others ++ layout.lineBreak depth ++ [']'])) := by
  refine ⟨⟨'[', _, rfl, rfl, by decide, by decide⟩, fun fuel left position hfuel _ => ?_⟩
  obtain ⟨fuel, rfl⟩ := Nat.exists_eq_succ_of_ne_zero (Nat.ne_zero_of_lt hfuel)
  obtain ⟨c, rest, hc, hspace, hclose, -⟩ := hfirst.starts
  simp only [List.length_cons, List.length_append, List.length_nil] at hfuel
  have hopen := all_isSpace_lineBreak layout (depth + 1)
  have hread := readItems_yields left hfirst hothers (show _ < fuel by omega)
    (all_isSpace_lineBreak layout depth) (position + 1 + (layout.lineBreak (depth + 1)).length) []
  rw [hc, List.cons_append, ← readValue_items hopen fuel position hspace hclose] at hread
  simpa only [hc, List.cons_append, List.append_assoc, List.nil_append, List.reverse_nil] using hread

end Items

/-! ### Objects -/

/-- The text of a member. -/
def memberChars (charset : Charset) (name : String) (text : List Char) : List Char :=
  stringChars charset name ++ ':' :: ' ' :: text

/-- The members of an object after the first ones, as they are read up to the end of the object. -/
structure MembersReadBack (members : List (String × Value)) (cs : List Char) : Prop where
  starts : cs = [] ∨ ∃ rest, cs = ',' :: rest
  reads : ∀ fuel blanks left position before, cs.length ≤ fuel → blanks.all isSpace →
    (Entries.keys (before ++ members)).Nodup →
    Yields (afterMember fuel ⟨cs ++ (blanks ++ '\x7d' :: left), position⟩ before)
      (.object (before ++ members)) left

theorem membersReadBack_nil : MembersReadBack [] [] := by
  refine ⟨.inl rfl, fun fuel blanks left position before _ hb _ => ?_⟩
  rw [List.append_nil]
  exact afterMember_close hb fuel position left before

section Members
variable {value : Value} {members : List (String × Value)} {text others : List Char}

theorem readMembers_yields (left : List Char) (charset : Charset) (name : String)
    (hvalue : ReadsBack value text) (hothers : MembersReadBack members others) {fuel : Nat}
    (hfuel : text.length + others.length < fuel) {blanks : List Char} (hb : blanks.all isSpace)
    (position : Nat) (before : List (String × Value))
    (hnames : (Entries.keys (before ++ (name, value) :: members)).Nodup) :
    Yields (readMembers fuel
        ⟨memberChars charset name text ++ (others ++ (blanks ++ '\x7d' :: left)), position⟩ before)
      (.object (before ++ (name, value) :: members)) left := by
  obtain ⟨fuel, rfl⟩ := Nat.exists_eq_succ_of_ne_zero (Nat.ne_zero_of_lt hfuel)
  obtain ⟨body, hbody, hname⟩ := readString_stringChars charset name
    (':' :: ' ' :: text ++ (others ++ (blanks ++ '\x7d' :: left))) position
  have hput : Entries.put name value before = before ++ [(name, value)] := by
    refine Entries.put_of_not_mem fun hmem => ?_
    rw [Entries.keys, List.map_append, List.map_cons, List.nodup_append] at hnames
    exact hnames.2.2 name hmem name List.mem_cons_self rfl
  rw [memberChars, List.append_assoc, hbody, readMembers]
  refine hname.bind fun position' => ?_
  obtain ⟨c, rest, hc, hspace, -⟩ := hvalue.starts
  have hskip : (Rest.mk (' ' :: (text ++ (others ++ (blanks ++ '\x7d' :: left))))
      (position' + 1)).skipSpace = ⟨text ++ (others ++ (blanks ++ '\x7d' :: left)), position' + 2⟩ := by
    rw [hc]
    exact skipSpace_append (show [' '].all isSpace from rfl) hspace _ _
  have hread := hvalue.reads fuel (others ++ (blanks ++ '\x7d' :: left)) (position' + 2) (by omega)
    (noNumber_after hothers.starts hb (.inr rfl))
  change Yields (readValue fuel (Rest.mk (' ' :: (text ++ (others ++ (blanks ++ '\x7d' :: left))))
    (position' + 1)).skipSpace >>= fun (value, r) =>
      afterMember fuel r (Entries.put name value before)) _ _
  rw [hskip]
  refine hread.bind fun position'' => ?_
  dsimp only
  rw [hput]
  have hrest := hothers.reads fuel blanks left position'' (before ++ [(name, value)]) (by omega) hb
    (by rwa [List.append_assoc])
  rwa [List.append_assoc] at hrest

theorem membersReadBack_cons (layout : Layout) (depth : Nat) (name : String)
    (hvalue : ReadsBack value text) (hothers : MembersReadBack members others) :
    MembersReadBack ((name, value) :: members)
      (layout.comma depth ++ memberChars layout.charset name text ++ others) := by
  obtain ⟨gap, hcomma, hgap⟩ := comma_eq layout depth
  rw [hcomma]
  refine ⟨.inr ⟨_, rfl⟩, fun fuel blanks left position before hfuel hb hnames => ?_⟩
  simp only [List.length_append, List.length_cons, memberChars] at hfuel
  have hread := readMembers_yields left layout.charset name hvalue hothers
    (show _ < fuel by omega) hb (position + 1 + gap.length) before hnames
  rw [memberChars, stringChars, List.cons_append, List.cons_append,
    ← afterMember_comma hgap fuel position rfl] at hread
  simpa only [memberChars, stringChars, List.cons_append, List.append_assoc] using hread

theorem readsBack_object (layout : Layout) (depth : Nat) (name : String)
    (hvalue : ReadsBack value text) (hothers : MembersReadBack members others)
    (hnames : (Entries.keys ((name, value) :: members)).Nodup) :
    ReadsBack (.object ((name, value) :: members))
      ('\x7b' :: (layout.lineBreak (depth + 1) ++ memberChars layout.charset name text ++ others
        ++ layout.lineBreak depth ++ ['\x7d'])) := by
  refine ⟨⟨'\x7b', _, rfl, rfl, by decide, by decide⟩, fun fuel left position hfuel _ => ?_⟩
  obtain ⟨fuel, rfl⟩ := Nat.exists_eq_succ_of_ne_zero (Nat.ne_zero_of_lt hfuel)
  simp only [List.length_cons, List.length_append, List.length_nil, memberChars] at hfuel
  have hopen := all_isSpace_lineBreak layout (depth + 1)
  have hread := readMembers_yields left layout.charset name hvalue hothers
    (show _ < fuel by omega) (all_isSpace_lineBreak layout depth)
    (position + 1 + (layout.lineBreak (depth + 1)).length) [] hnames
  rw [memberChars, stringChars, List.cons_append, List.cons_append,
    ← readValue_members hopen fuel position] at hread
  simpa only [memberChars, stringChars, List.cons_append, List.append_assoc, List.nil_append]
    using hread

end Members

/-! ### Values -/

theorem readsBack_emptyList : ReadsBack (.list []) ['[', ']'] := by
  refine ⟨⟨'[', _, rfl, rfl, by decide, by decide⟩, fun fuel left position hfuel _ => ?_⟩
  obtain ⟨fuel, rfl⟩ := Nat.exists_eq_succ_of_ne_zero (Nat.ne_zero_of_lt hfuel)
  exact ⟨position + 2, rfl⟩

theorem readsBack_emptyObject : ReadsBack (.object []) ['\x7b', '\x7d'] := by
  refine ⟨⟨'\x7b', _, rfl, rfl, by decide, by decide⟩, fun fuel left position hfuel _ => ?_⟩
  obtain ⟨fuel, rfl⟩ := Nat.exists_eq_succ_of_ne_zero (Nat.ne_zero_of_lt hfuel)
  exact ⟨position + 2, rfl⟩

theorem readsBack_whole (layout : Layout) (depth : Nat) {n : Int} (h : (Value.int n).isJson) :
    ∃ cs, valueChars layout depth (.int n) = .ok cs ∧ ReadsBack (.int n) cs := by
  rw [Value.isJson] at h
  have htext : wholeText n = .ok (toString n) := by rw [wholeText, Text.intText?_of_fits h]
  refine ⟨(toString n).toList, ?_, readsBack_number (spells_wholeText h)⟩
  rw [valueChars, htext]
  rfl

mutual
/-- Data of JSON is written, and its text is read back as the same data. -/
theorem readsBack_valueChars (layout : Layout) : ∀ (v : Value), v.isJson → ∀ depth,
    ∃ cs, valueChars layout depth v = .ok cs ∧ ReadsBack v cs
  | .null => fun _ _ => ⟨_, by rw [valueChars], readsBack_null⟩
  | .bool b => fun _ _ => ⟨_, by rw [valueChars], readsBack_bool b⟩
  | .int n => fun h depth => readsBack_whole layout depth h
  | .float x => fun h depth => by
    rw [Value.isJson] at h
    exact ⟨_, by rw [valueChars], readsBack_number (spells_floatText h)⟩
  | .str s => fun _ _ => ⟨_, by rw [valueChars], readsBack_string layout.charset s⟩
  | .list [] => fun _ _ => ⟨_, by rw [valueChars], readsBack_emptyList⟩
  | .list (item :: items) => fun h depth => by
    rw [Value.isJson, Value.areJson, Bool.and_eq_true] at h
    obtain ⟨first, hfirst, hreads⟩ := readsBack_valueChars layout item h.1 (depth + 1)
    obtain ⟨others, hothers, hread⟩ := itemsReadBack_itemsChars layout items h.2 (depth + 1)
    refine ⟨_, ?_, readsBack_list layout depth hreads hread⟩
    rw [valueChars, hfirst, hothers]
    rfl
  | .map [] => fun _ _ => ⟨_, by rw [valueChars], readsBack_emptyObject⟩
  | .map (entry :: entries) => fun h depth => by
    rw [Value.isJson, Value.entriesJson, Bool.and_eq_true, Bool.and_eq_true,
      decide_eq_true_eq] at h
    obtain ⟨⟨hentry, hentries⟩, hnames⟩ := h
    obtain ⟨name, value, text, rfl, htext, hvalue⟩ :=
      readsBack_entryChars layout entry hentry (depth + 1)
    obtain ⟨members, others, rfl, hothers, hread⟩ :=
      membersReadBack_entriesChars layout entries hentries (depth + 1)
    have hnames : (Entries.keys ((name, value) :: members)).Nodup := by
      rw [← Value.filterMap_entryName?]
      exact hnames
    refine ⟨_, ?_, readsBack_object layout depth name hvalue hread hnames⟩
    rw [valueChars, htext, hothers]
    rfl
  | .date _ | .moment _ | .bytes _ | .set _ | .pair _ _ => fun h => absurd h Bool.false_ne_true

theorem itemsReadBack_itemsChars (layout : Layout) : ∀ (items : List Value),
    Value.areJson items → ∀ depth,
    ∃ cs, itemsChars layout depth items = .ok cs ∧ ItemsReadBack items cs
  | [] => fun _ _ => ⟨_, by rw [itemsChars], itemsReadBack_nil⟩
  | item :: items => fun h depth => by
    rw [Value.areJson, Bool.and_eq_true] at h
    obtain ⟨first, hfirst, hreads⟩ := readsBack_valueChars layout item h.1 depth
    obtain ⟨others, hothers, hread⟩ := itemsReadBack_itemsChars layout items h.2 depth
    refine ⟨_, ?_, itemsReadBack_cons layout depth hreads hread⟩
    rw [itemsChars, hfirst, hothers]
    rfl

theorem readsBack_entryChars (layout : Layout) : ∀ (e : Value × Value), Value.entryJson e →
    ∀ depth, ∃ name value text, e = (.str name, value) ∧
      entryChars layout depth e = .ok (memberChars layout.charset name text) ∧ ReadsBack value text
  | (.str name, value) => fun h depth => by
    rw [Value.entryJson] at h
    obtain ⟨text, htext, hreads⟩ := readsBack_valueChars layout value h depth
    refine ⟨name, value, text, rfl, ?_, hreads⟩
    rw [entryChars, htext]
    rfl
  | (.null, _) | (.bool _, _) | (.int _, _) | (.float _, _) | (.list _, _) | (.map _, _)
  | (.date _, _) | (.moment _, _) | (.bytes _, _) | (.set _, _) | (.pair _ _, _) =>
    fun h => absurd h Bool.false_ne_true

theorem membersReadBack_entriesChars (layout : Layout) : ∀ (es : List (Value × Value)),
    Value.entriesJson es → ∀ depth, ∃ (members : List (String × Value)) (cs : List Char),
      es = members.map (fun m => (.str m.1, m.2)) ∧ entriesChars layout depth es = .ok cs ∧
        MembersReadBack members cs
  | [] => fun _ _ => ⟨[], _, rfl, by rw [entriesChars], membersReadBack_nil⟩
  | e :: es => fun h depth => by
    rw [Value.entriesJson, Bool.and_eq_true] at h
    obtain ⟨name, value, text, rfl, htext, hvalue⟩ := readsBack_entryChars layout e h.1 depth
    obtain ⟨members, others, rfl, hothers, hread⟩ :=
      membersReadBack_entriesChars layout es h.2 depth
    refine ⟨(name, value) :: members, _, rfl, ?_,
      membersReadBack_cons layout depth name hvalue hread⟩
    rw [entriesChars, htext, hothers]
    rfl
end

/-- Data of JSON is written as one text, which is read as the same data, also with blanks after
it. -/
theorem read_write (layout : Layout) {v : Value} (h : v.isJson) {blanks : List Char}
    (hb : blanks.all isSpace) : ∃ text, write layout v = .ok text ∧
      read (text ++ String.ofList blanks) = .ok v := by
  obtain ⟨cs, hcs, hreads⟩ := readsBack_valueChars layout v h 0
  refine ⟨String.ofList cs, by rw [write, hcs]; rfl, ?_⟩
  obtain ⟨c, rest, hc, hspace, -, hmark⟩ := hreads.starts
  have hchars : (String.ofList cs ++ String.ofList blanks).toList = cs ++ blanks := by
    rw [String.toList_append, String.toList_ofList, String.toList_ofList]
  have hnumber : NoNumber blanks := fun d hd =>
    noNumber_isSpace (List.all_eq_true.mp hb d (List.mem_of_mem_head? hd))
  obtain ⟨position, hread⟩ := hreads.reads (2 * (cs ++ blanks).length + 2) blanks 0
    (by rw [List.length_append]; omega) hnumber
  have hskip : (Rest.mk (cs ++ blanks) 0).skipSpace = ⟨cs ++ blanks, 0⟩ := by
    rw [hc, List.cons_append]
    exact skipSpace_append (show [].all isSpace from rfl) hspace _ 0
  have hend : (Rest.mk blanks position).skipSpace.chars = [] := by
    have hall : blanks.takeWhile isSpace = blanks :=
      List.takeWhile_eq_self_iff.mpr (List.all_eq_true.mp hb)
    rw [Rest.skipSpace, Rest.advance]
    simp only [hall, List.drop_length]
  have hhead : ((cs ++ blanks).head? == some '\uFEFF') = false := by
    rw [hc]
    simpa using hmark
  rw [read, hchars]
  simp only [hhead, hskip, hread, Bool.false_eq_true, ↓reduceIte]
  change (if (Rest.mk blanks position).skipSpace.chars.isEmpty then _ else _) = _
  rw [hend]
  rfl

end Json
end EditorBlocks
