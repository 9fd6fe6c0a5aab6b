import EditorBlocks.Proofs.Input.Loading
import Mathlib.Data.Finset.Card
import Mathlib.Data.Finset.Dedup
/-! Registries of repeated names, given as a list of documents or as a mapping from names to bodies:
each name stands where it comes first, with its last definition. -/

namespace EditorBlocks

theorem Value.sameKey_str (k : Value) (name : String) : k.sameKey (.str name) = k.isName name := by
  cases k with
  | float x => simp [sameKey, wholeKey?, isName]
  | _ => rfl

theorem Value.isName_of_ne {k : Value} {name other : String} (h : k.isName name)
    (hother : other ≠ name) : k.isName other = false := by
  cases k with
  | str k =>
    obtain rfl := eq_of_beq h
    exact beq_eq_false_iff_ne.mpr (Ne.symm hother)
  | _ => rfl

namespace Checked
variable {es : List (Value × Value)} {name other : String} {v : Value}

theorem memberOf?_putKey_self : memberOf? name (Value.putKey (.str name) v es) = some v := by
  induction es with
  | nil => simp [memberOf?_cons_entry, Value.putKey, Value.isName]
  | cons e rest ih =>
    rw [Value.putKey, Value.sameKey_str]
    by_cases hk : e.1.isName name
    · rw [if_pos hk, memberOf?_cons_entry, if_pos hk]
    · rw [if_neg hk, memberOf?_cons_entry, if_neg hk, ih]

theorem memberOf?_putKey_ne (h : other ≠ name) :
    memberOf? other (Value.putKey (.str name) v es) = memberOf? other es := by
  induction es with
  | nil =>
    have hname : (Value.str name).isName other = false := Value.isName_of_ne (beq_self_eq_true name) h
    rw [Value.putKey, memberOf?_cons_entry, hname]
    rfl
  | cons e rest ih =>
    rw [Value.putKey, Value.sameKey_str, memberOf?_cons_entry]
    by_cases hk : e.1.isName name
    · rw [if_pos hk, memberOf?_cons_entry, Value.isName_of_ne hk h]
      rfl
    · rw [if_neg hk, memberOf?_cons_entry, ih]

theorem memberOf?_filter_ne (h : other ≠ name) :
    memberOf? other (es.filter fun e => !e.1.isName name) = memberOf? other es := by
  induction es with
  | nil => rfl
  | cons e rest ih =>
    rw [memberOf?_cons_entry]
    by_cases hk : e.1.isName name
    · rw [List.filter_cons_of_neg (by simpa using hk), ih, Value.isName_of_ne hk h]
      rfl
    · rw [List.filter_cons_of_pos (by simpa using hk), memberOf?_cons_entry, ih]

end Checked

namespace BlockType
variable {es es' : List (Value × Value)} {t : BlockType} {v : Value}

/-- A definition is read from two members of its data, wherever they stand. -/
theorem check_congr (hname : Checked.memberOf? "name" es = Checked.memberOf? "name" es')
    (hattributes : Checked.memberOf? "attributes" es = Checked.memberOf? "attributes" es') :
    check (.map es) = check (.map es') := by
  rw [check, check, Checked.required, Checked.required, Checked.memberOr, Checked.memberOr, hname,
    hattributes]

theorem member_name_of_check (h : check v = .valid t) : v.member? "name" = some (.str t.name) := by
  cases v with
  | map es =>
    simp only [check, Checked.seq_eq_valid, Checked.map_eq_valid] at h
    obtain ⟨_, attributes, ⟨name, hname, rfl⟩, -, rfl⟩ := h
    unfold Checked.required at hname
    change Checked.memberOf? "name" es = _
    split at hname
    · rename_i v hv
      rw [hv, Checked.text_eq_valid.mp (Checked.within_eq_valid.mp hname)]
    · cases hname
  | _ => cases h

end BlockType

namespace Registry
variable {types : List BlockType} {name : String}

/-! ### Repeated names -/

theorem find?_ofTypes (types : List BlockType) (name : String) :
    (ofTypes types).find? name = types.findRev? fun t => t.name = name := by
  rw [find?, ofTypes, Entries.find?_ofList, List.findRev?_eq_find?_reverse,
    List.findRev?_eq_find?_reverse, ← List.map_reverse, List.find?_map, Option.map_map]
  exact congrFun Option.map_id _

theorem names_ofTypes (types : List BlockType) :
    (ofTypes types).names = (types.map (·.name)).eraseDups := by
  rw [names, ofTypes, Entries.keys_ofList, Entries.keys, List.map_map]
  rfl

theorem size_ofTypes (types : List BlockType) :
    (ofTypes types).size = (types.map (·.name)).toFinset.card := by
  have hnodup : (ofTypes types).names.Nodup := Entries.nodup_ofList _
  have hnames : (ofTypes types).names.toFinset = (types.map (·.name)).toFinset := by
    rw [names_ofTypes]
    ext name
    simp
  rw [← hnames, List.toFinset_card_of_nodup hnodup, names, Entries.keys, List.length_map, size]

/-! ### Documents -/

/-- What a mapping has under a name: the members of a definition, or null for none. -/
inductive IsBody : Value → Prop
  | null : IsBody .null
  | map (es : List (Value × Value)) : IsBody (.map es)

def bodyMembers : Value → List (Value × Value)
  | .map es => es
  | _ => []

/-- A body as a document: its key is the name, in place of a name of its own. -/
def document (name : String) (body : Value) : Value :=
  .map ((.str "name", .str name) :: (bodyMembers body).filter fun e => !e.1.isName "name")

/-- Registry data as a list of documents. -/
inductive Lists : Value → List Value → Prop
  | list (documents : List Value) : Lists (.list documents) documents
  | mapping {entries : List (String × Value)} (h : ∀ e ∈ entries, IsBody e.2) :
    Lists (.object entries) (entries.map fun e => document e.1 e.2)

theorem check_namedBody {body : Value} (h : IsBody body) (name : String) :
    ∃ named, namedBody (.str name) body = .ok named ∧
      BlockType.check named = BlockType.check (document name body) := by
  cases h with
  | null => exact ⟨_, rfl, rfl⟩
  | map es =>
    have hother : "attributes" ≠ "name" := by decide
    have hname : (Value.str "name").isName "name" := by decide
    have hattributes : ¬(Value.str "name").isName "attributes" := by decide
    refine ⟨_, rfl, BlockType.check_congr ?_ ?_⟩
    · rw [Checked.memberOf?_putKey_self, Checked.memberOf?_cons_entry, if_pos hname]
    · rw [Checked.memberOf?_putKey_ne hother, Checked.memberOf?_cons_entry, if_neg hattributes,
        bodyMembers, Checked.memberOf?_filter_ne hother]

theorem mapM_namedBody {entries : List (String × Value)} (h : ∀ e ∈ entries, IsBody e.2) :
    ∃ bodies, entries.mapM (fun e => namedBody (.str e.1) e.2) = .ok bodies ∧
      checkAll bodies = checkAll (entries.map fun e => document e.1 e.2) := by
  induction entries with
  | nil => exact ⟨[], rfl, rfl⟩
  | cons e rest ih =>
    obtain ⟨he, hrest⟩ := List.forall_mem_cons.mp h
    obtain ⟨named, hnamed, hcheck⟩ := check_namedBody he e.1
    obtain ⟨bodies, hbodies, hall⟩ := ih hrest
    refine ⟨named :: bodies, ?_, ?_⟩
    · rw [List.mapM_cons, hnamed, hbodies]
      rfl
    · rw [List.map_cons, checkAll, checkAll, hcheck, hall]

theorem ofData_eq_list {data : Value} {documents : List Value} (h : Lists data documents) :
    ofData data = ofData (.list documents) := by
  cases h with
  | list => rfl
  | @mapping entries h =>
    obtain ⟨bodies, hbodies, hall⟩ := mapM_namedBody h
    have hdata : ofData (.object entries) =
        entries.mapM (fun e => namedBody (.str e.1) e.2) >>= fun vs => ofTypes <$> checkAll vs := by
      rw [Value.object, ofData, List.mapM_map]
      rfl
    rw [hdata, hbodies, ofData, ← hall]
    rfl

/-- The first invalid document decides the error, whatever follows it. -/
theorem checkAll_of_invalid {before after : List Value} {v : Value} {complaints : List Complaint}
    (hbefore : ∀ u ∈ before, ∃ t, BlockType.check u = .valid t)
    (h : BlockType.check v = .invalid complaints) :
    checkAll (before ++ v :: after) = .error (.invalidBlockType complaints) := by
  induction before with
  | nil => rw [List.nil_append, checkAll, h]
  | cons u before ih =>
    obtain ⟨⟨t, ht⟩, hbefore⟩ := List.forall_mem_cons.mp hbefore
    rw [List.cons_append, checkAll, ht, ih hbefore]
    rfl

/-- Registry data is read as its list of documents. If all of them are valid, a name has its last
definition, and the names stand once each, in the order in which they first come. Otherwise the first
invalid document decides the error, whatever follows it. -/
theorem ofData_documents (data : Value) (documents : List Value) (h : Lists data documents) :
    ofData data = ofData (.list documents) ∧
    (∀ types, List.Forall₂ (fun v t => BlockType.check v = .valid t) documents types →
      List.Forall₂ (fun v t => v.member? "name" = some (.str t.name)) documents types ∧
      ∃ r, ofData data = .ok r ∧
        (∀ name, r.find? name = types.findRev? fun t => t.name = name) ∧
        r.names = (types.map (·.name)).eraseDups ∧
        (∀ e ∈ r.types, r.find? e.1 = some e.2) ∧
        r.size = (types.map (·.name)).toFinset.card) ∧
    ∀ before v after complaints, documents = before ++ v :: after →
      (∀ u ∈ before, ∃ t, BlockType.check u = .valid t) →
      BlockType.check v = .invalid complaints →
      ofData data = .error (.invalidBlockType complaints) := by
  have hdata := ofData_eq_list h
  refine ⟨hdata, fun types htypes => ⟨htypes.imp fun _ _ => BlockType.member_name_of_check, ?_⟩, ?_⟩
  · refine ⟨ofTypes types, ?_, find?_ofTypes types, names_ofTypes types, ?_, size_ofTypes types⟩
    · rw [hdata, ofData, checkAll_eq_ok.mpr htypes]
      rfl
    · exact fun e he => Entries.find?_of_mem (Entries.nodup_ofList _) he
  · rintro before v after complaints rfl hbefore hv
    rw [hdata, ofData, checkAll_of_invalid hbefore hv]
    rfl

/-- The definition of an attribute that reads the text of a block. -/
def textAttribute : Value := .object [("source", .str "text")]

/-- Three documents, two of them for one name. -/
def twiceGiven : List Value :=
  [.object [("attributes", .object [("title", textAttribute)]), ("name", .str "core/note")],
    .object [("name", .str "core/list")],
    .object [("name", .str "core/note"), ("attributes", .object [("body", textAttribute)])]]

/-- Bodies under their names, one with another name of its own. -/
def namedTwice : List (String × Value) :=
  [("core/note", .object [("name", .str "core/list"), ("attributes", .object [])]),
    ("core/list", .null)]

theorem twiceGiven_registered :
    (∃ r, ofData (.list twiceGiven) = .ok r ∧ r.names = ["core/note", "core/list"] ∧ r.size = 2 ∧
      (r.find? "core/note").map (fun t => Entries.keys t.attributes) = some ["body"]) ∧
    (∃ r, ofData (.object namedTwice) = .ok r ∧ r.names = ["core/note", "core/list"]) ∧
    ofData (.list (twiceGiven ++ [.object [], .int 5])) =
      .error (.invalidBlockType [⟨[.member "name"], .missing⟩]) := by
  have htwice := (ofData_documents _ _ (.list twiceGiven)).2.1 _
    (.cons rfl (.cons rfl (.cons rfl .nil)))
  have hbodies : ∀ e ∈ namedTwice, IsBody e.2 := by
    rintro e (_ | ⟨_, _ | ⟨_, ⟨⟩⟩⟩)
    · exact .map _
    · exact .null
  have hnamed := (ofData_documents _ _ (.mapping hbodies)).2.1 _ (.cons rfl (.cons rfl .nil))
  obtain ⟨-, r, hr, hfind, hnames, -, hsize⟩ := htwice
  obtain ⟨-, r', hr', -, hnames', -⟩ := hnamed
  refine ⟨⟨r, hr, hnames, hsize, ?_⟩, ⟨r', hr', hnames'⟩, ?_⟩
  · rw [hfind]
    rfl
  · refine (ofData_documents _ _ (.list (twiceGiven ++ [.object [], .int 5]))).2.2 twiceGiven _
      [.int 5] _ rfl ?_ rfl
    rintro v (_ | ⟨_, _ | ⟨_, _ | ⟨_, ⟨⟩⟩⟩⟩) <;> exact ⟨_, rfl⟩

end Registry
end EditorBlocks
