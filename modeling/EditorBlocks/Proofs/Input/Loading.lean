import EditorBlocks.Input.File
import EditorBlocks.Log.Noted
import EditorBlocks.Proofs.Json.Writable
import Mathlib.Data.List.Forall2
/-! What is loaded from data of JSON: definitions, blocks and metadata that hold data of JSON only. -/

namespace EditorBlocks

theorem bind_eq_ok {ε α β : Type} {x : Except ε α} {f : α → Except ε β} {b : β} :
    x >>= f = .ok b ↔ ∃ a, x = .ok a ∧ f a = .ok b := by
  cases x <;> simp [Bind.bind, Except.bind]

theorem map_eq_ok {ε α β : Type} {x : Except ε α} {f : α → β} {b : β} :
    x.map f = .ok b ↔ ∃ a, x = .ok a ∧ f a = b := by
  cases x <;> simp [Except.map]

/-- What follows from a property of each element on the left holds of all on the right. -/
theorem forall_mem_of_forall₂ {α β : Type} {p : α → Prop} {q : β → Prop} {as : List α} {bs : List β}
    (h : List.Forall₂ (fun a b => p a → q b) as bs) (has : ∀ a ∈ as, p a) : ∀ b ∈ bs, q b := by
  induction h with
  | nil => exact fun _ h => (List.not_mem_nil h).elim
  | cons h _ ih =>
    obtain ⟨ha, hrest⟩ := List.forall_mem_cons.mp has
    exact List.forall_mem_cons.mpr ⟨h ha, ih hrest⟩

theorem Log.Noted.outcome_mapM_ofExcept {ε α β : Type} (f : α → Except ε β) (as : List α) :
    (as.mapM fun a => Log.Noted.ofExcept (f a)).outcome = as.mapM f :=
  outcome_mapM _ as

namespace Value
variable {es : List (Value × Value)} {members : List (String × Value)} {v : Value}

/-- Whether a key is this name. -/
def isName (name : String) : Value → Bool
  | str k => k == name
  | _ => false

theorem exists_members (h : (map es).isJson) : ∃ members : List (String × Value),
    es = members.map (fun m => (str m.1, m.2)) ∧ (Entries.keys members).Nodup ∧
      ∀ m ∈ members, m.2.isJson := by
  obtain ⟨members, hes⟩ := exists_object h
  rw [hes, isJson_object] at h
  exact ⟨members, map.inj hes, h⟩

theorem isJson_put {k : String} (h : (object members).isJson) (hv : v.isJson) :
    (object (Entries.put k v members)).isJson := by
  rw [isJson_object] at h ⊢
  refine ⟨Entries.nodup_put h.1, fun m hm => ?_⟩
  rcases Entries.mem_of_mem_put hm with rfl | hm
  · exact hv
  · exact h.2 m hm

theorem isJson_ofList (h : ∀ m ∈ members, m.2.isJson) : (object (Entries.ofList members)).isJson :=
  isJson_object.mpr ⟨Entries.nodup_ofList members, fun m hm => h m (Entries.mem_of_mem_ofList hm)⟩

end Value

namespace Checked
variable {α β : Type} {x : Checked α}

theorem map_eq_valid {f : α → β} {b : β} : f <$> x = .valid b ↔ ∃ a, x = .valid a ∧ f a = b := by
  change map f x = _ ↔ _
  cases x <;> simp [map]

theorem seq_eq_valid {f : Checked (α → β)} {b : β} :
    f <*> x = .valid b ↔ ∃ g a, f = .valid g ∧ x = .valid a ∧ g a = b := by
  change seq f (fun _ => x) = _ ↔ _
  cases f <;> cases x <;> simp [seq]

theorem within_eq_valid {step : DataStep} {a : α} : x.within step = .valid a ↔ x = .valid a := by
  cases x <;> simp [within]

theorem text_eq_valid {v : Value} {s : String} : text v = .valid s ↔ v = .str s := by
  unfold text
  split <;> simp_all [refuse]

theorem key_eq_valid {k : Value} {s : String} : key k = .valid s ↔ k = .str s := by
  rw [key, within_eq_valid, within_eq_valid, text_eq_valid]

theorem memberOf?_cons_entry (name : String) (e : Value × Value) (rest : List (Value × Value)) :
    memberOf? name (e :: rest) = if e.1.isName name then some e.2 else memberOf? name rest := by
  change ((e :: rest).find? fun e => e.1.isName name).map Prod.snd = _
  rw [List.find?_cons]
  cases e.1.isName name <;> rfl

theorem memberOf?_cons (name k : String) (v : Value) (rest : List (Value × Value)) :
    memberOf? name ((.str k, v) :: rest) = if k == name then some v else memberOf? name rest :=
  memberOf?_cons_entry name (.str k, v) rest

theorem isJson_of_memberOf? {es : List (Value × Value)} {name : String} {v : Value}
    (h : (Value.map es).isJson) (hv : memberOf? name es = some v) : v.isJson := by
  obtain ⟨e, he, rfl⟩ := Option.map_eq_some_iff.mp hv
  obtain ⟨members, rfl, -, hmembers⟩ := Value.exists_members h
  obtain ⟨m, hm, rfl⟩ := List.mem_map.mp (List.mem_of_find?_eq_some he)
  exact hmembers m hm

theorem entries_members (members : List (String × Value)) :
    entries (members.map fun m => (.str m.1, m.2)) = .valid members := by
  induction members with
  | nil => rfl
  | cons m rest ih =>
    rw [List.map_cons, entries, ih]
    rfl

theorem members_of_entries {es : List (Value × Value)} {members : List (String × Value)}
    (h : entries es = .valid members) : es = members.map fun m => (.str m.1, m.2) := by
  induction es generalizing members with
  | nil =>
    cases h
    rfl
  | cons e rest ih =>
    rw [entries, seq_eq_valid] at h
    obtain ⟨_, others, hcons, hothers, rfl⟩ := h
    obtain ⟨k, hk, rfl⟩ := map_eq_valid.mp hcons
    rw [ih hothers, List.map_cons, ← key_eq_valid.mp hk]

/-- A mapping from names is the object with those members. -/
theorem eq_object_of_mapping {v : Value} {members : List (String × Value)}
    (h : mapping v = .valid members) : v = .object members := by
  cases v with
  | map es => exact congrArg Value.map (members_of_entries h)
  | _ => cases h

end Checked

/-! ### Definitions -/

/-- All data that a rule keeps as it is given is data of JSON. -/
structure AttributeRule.IsJson (rule : AttributeRule) : Prop where
  fallback : rule.fallback.isJson
  extras : (Value.object rule.extras).isJson
  apart : ∀ m ∈ rule.extras, m.1 ∉ AttributeDefinition.knownMembers

namespace AttributeDefinition

/-- A definition, and those of its query at any depth, keep data of JSON only. -/
inductive IsJson : AttributeDefinition → Prop
  | plain {rule : AttributeRule} (hrule : rule.IsJson) : IsJson (mk rule none)
  | query {rule : AttributeRule} {items : List (String × AttributeDefinition)} (hrule : rule.IsJson)
    (hnames : (Entries.keys items).Nodup) (hitems : ∀ item ∈ items, IsJson item.2) :
    IsJson (mk rule (some items))

/-- Definitions under names of their own. -/
structure AreJson (items : List (String × AttributeDefinition)) : Prop where
  names : (Entries.keys items).Nodup
  items : ∀ item ∈ items, item.2.IsJson

theorem IsJson.rule {d : AttributeDefinition} (h : d.IsJson) : d.rule.IsJson := by
  cases h with
  | plain hrule => exact hrule
  | query hrule => exact hrule

theorem checkExtras_members (members : List (String × Value)) :
    checkExtras (members.map fun m => (.str m.1, m.2)) =
      .valid (members.filter fun m => !knownMembers.contains m.1) := by
  induction members with
  | nil => rfl
  | cons m rest ih =>
    rw [List.map_cons, checkExtras, ih, List.filter_cons]
    cases knownMembers.contains m.1 <;> rfl

theorem parts_of_check {es : List (Value × Value)} {d : AttributeDefinition}
    (h : check (.map es) = .valid d) :
    d.rule.fallback = (Checked.memberOf? "default" es).getD .null ∧
      checkQueryMember es = .valid d.query ∧ checkExtras es = .valid d.rule.extras := by
  simp only [check, Checked.seq_eq_valid, Checked.map_eq_valid, Checked.within_eq_valid] at h
  obtain ⟨_, extras, ⟨_, query, ⟨_, fallback, ⟨_, _, ⟨_, _, ⟨_, _, ⟨_, _, ⟨_, -, rfl⟩, -, rfl⟩, -, rfl⟩,
    -, rfl⟩, -, rfl⟩, hfallback, rfl⟩, hquery, rfl⟩, hextras, rfl⟩ := h
  cases hfallback
  exact ⟨rfl, hquery, hextras⟩

/-- The rule of a definition that is data of JSON is. -/
theorem isJson_rule {es : List (Value × Value)} {rule : AttributeRule}
    (h : (Value.map es).isJson)
    (hfallback : rule.fallback = (Checked.memberOf? "default" es).getD .null)
    (hextras : checkExtras es = .valid rule.extras) : rule.IsJson := by
  have hdefault : rule.fallback.isJson := by
    rw [hfallback]
    cases hv : Checked.memberOf? "default" es with
    | none => rfl
    | some v => exact Checked.isJson_of_memberOf? h hv
  obtain ⟨members, rfl, hnames, hvalues⟩ := Value.exists_members h
  rw [checkExtras_members, Checked.valid.injEq] at hextras
  refine ⟨hdefault, Value.isJson_object.mpr ⟨?_, ?_⟩, ?_⟩
  · rw [← hextras]
    exact hnames.sublist (List.filter_sublist.map Prod.fst)
  · intro m hm
    rw [← hextras] at hm
    exact hvalues m (List.mem_of_mem_filter hm)
  · intro m hm
    rw [← hextras, List.mem_filter, Bool.not_eq_true'] at hm
    exact fun hknown => Bool.false_ne_true (hm.2.symm.trans (List.contains_iff_mem.mpr hknown))

theorem checkIfQuery_eq {e : Value × Value} {items : List (String × AttributeDefinition)}
    (h : checkIfQuery e = some (.valid (some items))) :
    ∃ es, e = (.str "query", .map es) ∧ checkItems es = .valid items := by
  unfold checkIfQuery at h
  split at h
  · cases h
  · rename_i es
    cases hes : checkItems es with
    | valid found =>
      rw [hes] at h
      cases h
      exact ⟨es, rfl, hes⟩
    | invalid complaints =>
      rw [hes] at h
      cases h
  · cases h
  · cases h

mutual
theorem isJson_of_check : ∀ (v : Value), v.isJson → ∀ d, check v = .valid d → d.IsJson
  | .map es => fun h d hd => by
    obtain ⟨hfallback, hquery, hextras⟩ := parts_of_check hd
    have hrule := isJson_rule h hfallback hextras
    obtain ⟨rule, query⟩ := d
    rw [Value.isJson, Bool.and_eq_true] at h
    cases query with
    | none => exact .plain hrule
    | some items =>
      obtain ⟨hnames, hitems⟩ := areJson_of_checkQueryMember es h.1 items hquery
      exact .query hrule hnames hitems
  | .null | .bool _ | .int _ | .float _ | .str _ | .list _ | .date _ | .moment _ | .bytes _ | .set _
  | .pair _ _ => fun _ _ hd => by cases hd

theorem areJson_of_checkQueryMember : ∀ (es : List (Value × Value)), Value.entriesJson es →
    ∀ items, checkQueryMember es = .valid (some items) → AreJson items
  | [] => fun _ _ hquery => by cases hquery
  | e :: rest => fun h items hquery => by
    rw [Value.entriesJson, Bool.and_eq_true] at h
    rw [checkQueryMember] at hquery
    cases he : checkIfQuery e with
    | none =>
      rw [he] at hquery
      exact areJson_of_checkQueryMember rest h.2 items hquery
    | some checked =>
      rw [he] at hquery
      exact areJson_of_checkIfQuery e h.1 items (he.trans (congrArg some hquery))

theorem areJson_of_checkIfQuery : ∀ (e : Value × Value), Value.entryJson e →
    ∀ items, checkIfQuery e = some (.valid (some items)) → AreJson items
  | (.str k, .map es) => fun h items hquery => by
    obtain ⟨_, heq, hitems⟩ := checkIfQuery_eq hquery
    cases heq
    rw [Value.entryJson, Value.isJson, Bool.and_eq_true, decide_eq_true_eq] at h
    obtain ⟨hnames, hdefinitions⟩ := isJson_of_checkItems es h.1 items hitems
    exact ⟨hnames ▸ h.2, hdefinitions⟩
  | (.str _, .null) | (.str _, .bool _) | (.str _, .int _) | (.str _, .float _) | (.str _, .str _)
  | (.str _, .list _) | (.str _, .date _) | (.str _, .moment _) | (.str _, .bytes _)
  | (.str _, .set _) | (.str _, .pair _ _) => fun _ _ hquery => by
    obtain ⟨_, heq, -⟩ := checkIfQuery_eq hquery
    cases heq
  | (.null, _) | (.bool _, _) | (.int _, _) | (.float _, _) | (.list _, _) | (.map _, _)
  | (.date _, _) | (.moment _, _) | (.bytes _, _) | (.set _, _) | (.pair _ _, _) =>
    fun h => absurd h Bool.false_ne_true

theorem isJson_of_checkItems : ∀ (es : List (Value × Value)), Value.entriesJson es →
    ∀ items, checkItems es = .valid items →
    Entries.keys items = es.filterMap Value.entryName? ∧ ∀ item ∈ items, item.2.IsJson
  | [] => fun _ items hitems => by
    rw [checkItems] at hitems
    cases hitems
    exact ⟨rfl, fun _ h => (List.not_mem_nil h).elim⟩
  | e :: rest => fun h items hitems => by
    rw [Value.entriesJson, Bool.and_eq_true] at h
    rw [checkItems, Checked.seq_eq_valid] at hitems
    obtain ⟨_, others, hcons, hothers, rfl⟩ := hitems
    obtain ⟨first, hfirst, rfl⟩ := Checked.map_eq_valid.mp hcons
    obtain ⟨hname, hdefinition⟩ := isJson_of_checkItem e h.1 first hfirst
    obtain ⟨hnames, hdefinitions⟩ := isJson_of_checkItems rest h.2 others hothers
    obtain ⟨k, v⟩ := e
    cases hname
    exact ⟨congrArg (first.1 :: ·) hnames, List.forall_mem_cons.mpr ⟨hdefinition, hdefinitions⟩⟩

theorem isJson_of_checkItem : ∀ (e : Value × Value), Value.entryJson e →
    ∀ item, checkItem e = .valid item → e.1 = .str item.1 ∧ item.2.IsJson
  | (k, v) => fun h item hitem => by
    rw [checkItem, Checked.seq_eq_valid] at hitem
    obtain ⟨_, d, hpair, hd, rfl⟩ := hitem
    obtain ⟨name, hname, rfl⟩ := Checked.map_eq_valid.mp hpair
    obtain rfl := Checked.key_eq_valid.mp hname
    rw [Value.entryJson] at h
    exact ⟨rfl, isJson_of_check v h d (Checked.within_eq_valid.mp hd)⟩
end

end AttributeDefinition

/-! ### Registries -/

/-- Every type of a registry has definitions of JSON. -/
def Registry.IsJson (r : Registry) : Prop :=
  ∀ name type, r.find? name = some type → AttributeDefinition.AreJson type.attributes

namespace Registry

theorem isJson_ofTypes {types : List BlockType}
    (h : ∀ t ∈ types, AttributeDefinition.AreJson t.attributes) : (ofTypes types).IsJson := by
  intro name type hfind
  have hmem := Entries.mem_of_mem_ofList (Entries.mem_of_find? hfind)
  obtain ⟨t, ht, heq⟩ := List.mem_map.mp hmem
  obtain ⟨-, rfl⟩ := Prod.mk.inj heq
  exact h t ht

theorem areJson_of_check {v : Value} {type : BlockType} (h : v.isJson)
    (htype : BlockType.check v = .valid type) : AttributeDefinition.AreJson type.attributes := by
  cases v with
  | map es =>
    simp only [BlockType.check, Checked.seq_eq_valid, Checked.map_eq_valid] at htype
    obtain ⟨_, attributes, ⟨name, -, rfl⟩, hattributes, rfl⟩ := htype
    unfold Checked.memberOr at hattributes
    cases hmember : Checked.memberOf? "attributes" es with
    | none =>
      rw [hmember] at hattributes
      cases hattributes
      exact ⟨List.nodup_nil, fun _ h => (List.not_mem_nil h).elim⟩
    | some items =>
      rw [hmember, Checked.within_eq_valid] at hattributes
      have hitems := Checked.isJson_of_memberOf? h hmember
      cases items with
      | map es =>
        rw [Value.isJson, Bool.and_eq_true, decide_eq_true_eq] at hitems
        obtain ⟨hnames, hdefinitions⟩ :=
          AttributeDefinition.isJson_of_checkItems es hitems.1 attributes hattributes
        exact ⟨hnames ▸ hitems.2, hdefinitions⟩
      | _ => cases hattributes
  | _ => cases htype

/-- Data of block types is accepted if each item is a valid block type. -/
theorem checkAll_eq_ok {vs : List Value} {types : List BlockType} : checkAll vs = .ok types ↔
    List.Forall₂ (fun v t => BlockType.check v = .valid t) vs types := by
  induction vs generalizing types with
  | nil => simp [checkAll, eq_comm]
  | cons v rest ih =>
    rw [checkAll, List.forall₂_cons_left_iff]
    cases BlockType.check v with
    | invalid complaints => simp
    | valid t =>
      simp only [map_eq_ok, ih, Checked.valid.injEq, exists_and_left, exists_eq_left']
      exact exists_congr fun others => and_congr_right fun _ => eq_comm

theorem putKey_members (name : String) (v : Value) (members : List (String × Value)) :
    Value.putKey (.str name) v (members.map fun m => (.str m.1, m.2)) =
      (Entries.put name v members).map fun m => (.str m.1, m.2) := by
  induction members with
  | nil => rfl
  | cons m rest ih =>
    have hsame : Value.sameKey (.str m.1) (.str name) = (m.1 == name) := rfl
    rw [List.map_cons, Value.putKey, hsame, Entries.put, ih]
    by_cases h : m.1 = name <;> simp [h]

theorem isJson_namedBody {name : String} {body named : Value} (h : body.isJson)
    (hnamed : namedBody (.str name) body = .ok named) : named.isJson := by
  unfold namedBody at hnamed
  split at hnamed
  · rename_i es
    cases hnamed
    obtain ⟨members, rfl, hjson⟩ := Value.exists_members h
    rw [putKey_members]
    exact Value.isJson_put (Value.isJson_object.mpr hjson) rfl
  · split at hnamed
    · cases hnamed
    · cases hnamed
      rfl

/-- The types of a registry are read from what its data holds, each from one body. -/
theorem exists_of_ofData {P : Value → Prop} {data : Value} {r : Registry} (hr : ofData data = .ok r)
    (hlist : ∀ vs, data = .list vs → ∀ v ∈ vs, P v)
    (hmap : ∀ es, data = .map es → ∀ e ∈ es, ∀ body, namedBody e.1 e.2 = .ok body → P body) :
    ∃ types, r = ofTypes types ∧ ∀ t ∈ types, ∃ v, P v ∧ BlockType.check v = .valid t := by
  have hcheck : ∀ {vs : List Value}, (∀ v ∈ vs, P v) → ofTypes <$> checkAll vs = .ok r →
      ∃ types, r = ofTypes types ∧ ∀ t ∈ types, ∃ v, P v ∧ BlockType.check v = .valid t := by
    intro vs hvs hr
    obtain ⟨types, htypes, rfl⟩ := map_eq_ok.mp hr
    refine ⟨types, rfl, forall_mem_of_forall₂ ?_ hvs⟩
    exact (checkAll_eq_ok.mp htypes).imp fun v t ht hv => ⟨v, hv, ht⟩
  cases data with
  | map es =>
    obtain ⟨bodies, hbodies, hr⟩ := bind_eq_ok.mp hr
    refine hcheck (fun body hbody => ?_) hr
    rw [← Log.Noted.outcome_mapM_ofExcept] at hbodies
    obtain ⟨e, he, hnamed⟩ := Log.Noted.outcome_of_mem_mapM hbodies hbody
    exact hmap es rfl e he body hnamed
  | list vs => exact hcheck (hlist vs rfl) hr
  | _ => cases hr

theorem isJson_ofData {data : Value} {r : Registry} (h : data.isJson) (hr : ofData data = .ok r) :
    r.IsJson := by
  obtain ⟨types, rfl, htypes⟩ := exists_of_ofData (P := fun v => v.isJson) hr
    (by
      rintro vs rfl
      exact Value.isJson_list.mp h)
    (by
      rintro es rfl e he body hnamed
      obtain ⟨members, rfl, -, hvalues⟩ := Value.exists_members h
      obtain ⟨m, hm, rfl⟩ := List.mem_map.mp he
      exact isJson_namedBody (hvalues m hm) hnamed)
  refine isJson_ofTypes fun t ht => ?_
  obtain ⟨v, hv, hcheck⟩ := htypes t ht
  exact areJson_of_check hv hcheck

end Registry

/-! ### Blocks -/

namespace ParsedBlock

theorem toValues_eq_map (bs : List ParsedBlock) : toValues bs = bs.map toValue := by
  induction bs with
  | nil => rfl
  | cons b rest ih => rw [toValues, ih, List.map_cons]

/-- The data of a block is data of JSON if its attributes and the blocks inside are. -/
theorem isJson_toValue {name : Option String} {attrs : List (String × Value)} {html : String}
    {inner : List ParsedBlock} : (toValue (mk name attrs html inner)).isJson ↔
      (Value.object attrs).isJson ∧ ∀ b ∈ inner, b.toValue.isJson := by
  have hname : ((name.map Value.str).getD .null).isJson := by cases name <;> rfl
  have hnames : ["blockName", "attrs", "innerHTML", "innerBlocks"].Nodup := by decide
  have hhtml : (Value.str html).isJson := rfl
  rw [toValue, Value.isJson_object, toValues_eq_map]
  simp only [Entries.keys, List.map_cons, List.map_nil, hnames, true_and, List.forall_mem_cons,
    hname, hhtml, Value.isJson_list, List.forall_mem_map]
  simp

/-- Explicit attributes are a mapping, or there are none. -/
theorem isJson_of_checkAttrs {v : Value} {attrs : List (String × Value)} (h : v.isJson)
    (hattrs : checkAttrs v = .valid attrs) : (Value.object attrs).isJson := by
  unfold checkAttrs at hattrs
  split at hattrs
  · cases hattrs
    rfl
  · cases hattrs
    rfl
  · exact Checked.eq_object_of_mapping hattrs ▸ h

/-- The member of block data under its outer name, or else under its inner one. -/
def given? (outer inner : String) (es : List (Value × Value)) : Option Value :=
  (Checked.memberOf? outer es).or (Checked.memberOf? inner es)

section Members
variable {α : Type} {default : α} {outer inner : String} {check : Value → Checked α}
  {es : List (Value × Value)} {a : α}

/-- A valid member is left out, with its default, or it is given and valid. -/
theorem memberOr_eq_valid : memberOr default outer inner check es = .valid a ↔
    (given? outer inner es = none ∧ a = default) ∨
      ∃ v, given? outer inner es = some v ∧ check v = .valid a := by
  unfold memberOr given?
  cases (Checked.memberOf? outer es).or (Checked.memberOf? inner es) with
  | none => simp [eq_comm]
  | some v => simp [Checked.within_eq_valid]

theorem isJson_of_given? {v : Value} (h : (Value.map es).isJson)
    (hv : given? outer inner es = some v) : v.isJson := by
  rcases Option.or_eq_some_iff.mp hv with hv | ⟨-, hv⟩
  · exact Checked.isJson_of_memberOf? h hv
  · exact Checked.isJson_of_memberOf? h hv

theorem sizeOf_lt_of_given? {v : Value} (hv : given? outer inner es = some v) :
    sizeOf v < sizeOf es := by
  have hmember : ∀ {name : String}, Checked.memberOf? name es = some v → sizeOf v < sizeOf es := by
    intro name h
    obtain ⟨e, he, rfl⟩ := Option.map_eq_some_iff.mp h
    have hsize := List.sizeOf_lt_of_mem (List.mem_of_find?_eq_some he)
    obtain ⟨k, v⟩ := e
    simp only [Prod.mk.sizeOf_spec] at hsize ⊢
    omega
  rcases Option.or_eq_some_iff.mp hv with hv | ⟨-, hv⟩
  · exact hmember hv
  · exact hmember hv

end Members

/-- The blocks inside a block are a list. -/
def checkInner : Value → Checked (List ParsedBlock)
  | .list vs => checkFrom 0 vs
  | _ => .refuse .notList

theorem checkIf_str (member k : String) (v : Value) :
    checkIf member (.str k, v) = if k == member then some (checkInner v) else none := by
  cases v <;> rfl

/-- The blocks under a name are those of the first member with that name. -/
theorem checkMember_eq (member : String) (es : List (Value × Value)) :
    checkMember member es = (Checked.memberOf? member es).map checkInner := by
  induction es with
  | nil => rfl
  | cons e rest ih =>
    obtain ⟨k, v⟩ := e
    rw [checkMember, ih]
    cases k with
    | str k =>
      rw [checkIf_str, Checked.memberOf?_cons]
      cases k == member <;> rfl
    | _ => rfl

/-- A block is valid if each of its members is. -/
theorem check_eq_valid {es : List (Value × Value)} {name : Option String}
    {attrs : List (String × Value)} {html : String} {inner : List ParsedBlock} :
    check (.map es) = .valid (mk name attrs html inner) ↔
      memberOr none "blockName" "name" (Checked.optional Checked.text) es = .valid name ∧
      memberOr [] "attrs" "attrs" checkAttrs es = .valid attrs ∧
      memberOr "" "innerHTML" "inner_html" Checked.text es = .valid html ∧
      memberOr [] "innerBlocks" "inner_blocks" checkInner es = .valid inner := by
  have hnested : (((checkMember "innerBlocks" es).or (checkMember "inner_blocks" es)).getD
      (.valid [])).within (.member "innerBlocks") =
        memberOr [] "innerBlocks" "inner_blocks" checkInner es := by
    rw [checkMember_eq, checkMember_eq, ← Option.map_or, memberOr]
    cases (Checked.memberOf? "innerBlocks" es).or (Checked.memberOf? "inner_blocks" es) <;> rfl
  simp only [check, hnested, Checked.seq_eq_valid, Checked.map_eq_valid]
  constructor
  · rintro ⟨_, inner, ⟨_, html, ⟨_, attrs, ⟨name, hname, rfl⟩, hattrs, rfl⟩, hhtml, rfl⟩, hinner, h⟩
    cases h
    exact ⟨hname, hattrs, hhtml, hinner⟩
  · rintro ⟨hname, hattrs, hhtml, hinner⟩
    exact ⟨_, inner, ⟨_, html, ⟨_, attrs, ⟨name, hname, rfl⟩, hattrs, rfl⟩, hhtml, rfl⟩, hinner, rfl⟩

theorem checkFrom_eq_valid {vs : List Value} {index : Nat} {blocks : List ParsedBlock} :
    checkFrom index vs = .valid blocks ↔ List.Forall₂ (fun v b => check v = .valid b) vs blocks := by
  induction vs generalizing index blocks with
  | nil => simp [checkFrom, eq_comm]
  | cons v rest ih =>
    simp only [checkFrom, Checked.seq_eq_valid, Checked.map_eq_valid, Checked.within_eq_valid, ih,
      List.forall₂_cons_left_iff]
    constructor
    · rintro ⟨_, others, ⟨first, hfirst, rfl⟩, hothers, rfl⟩
      exact ⟨first, others, hfirst, hothers, rfl⟩
    · rintro ⟨first, others, hfirst, hothers, rfl⟩
      exact ⟨_, others, ⟨first, hfirst, rfl⟩, hothers, rfl⟩

/-- What holds of a block and its data if it holds of the blocks inside, holds of every valid
block. -/
theorem check_induction {P : Value → ParsedBlock → Prop}
    (step : ∀ {es items name attrs html inner},
      memberOr none "blockName" "name" (Checked.optional Checked.text) es = .valid name →
      memberOr [] "attrs" "attrs" checkAttrs es = .valid attrs →
      memberOr "" "innerHTML" "inner_html" Checked.text es = .valid html →
      (given? "innerBlocks" "inner_blocks" es).getD (.list []) = .list items →
      List.Forall₂ P items inner → P (.map es) (mk name attrs html inner)) :
    ∀ (v : Value) (b : ParsedBlock), check v = .valid b → P v b
  | .map es, mk name attrs html inner, h => by
    obtain ⟨hname, hattrs, hhtml, hinner⟩ := check_eq_valid.mp h
    rcases memberOr_eq_valid.mp hinner with ⟨hnone, rfl⟩ | ⟨v, hv, hchecked⟩
    · have hitems : (given? "innerBlocks" "inner_blocks" es).getD (.list []) = .list [] := by
        rw [hnone, Option.getD_none]
      exact step hname hattrs hhtml hitems .nil
    · cases v with
      | list items =>
        have hitems : (given? "innerBlocks" "inner_blocks" es).getD (.list []) = .list items := by
          rw [hv, Option.getD_some]
        have hread : List.Forall₂ (fun v b => v ∈ items ∧ check v = .valid b) items inner :=
          (List.forall₂_and_left items inner).mpr ⟨fun _ h => h, checkFrom_eq_valid.mp hchecked⟩
        refine step hname hattrs hhtml hitems (hread.imp fun v b h => ?_)
        have hsize : sizeOf v < sizeOf (Value.map es) := by
          have hitem := List.sizeOf_lt_of_mem h.1
          have hlist := sizeOf_lt_of_given? hv
          simp only [Value.list.sizeOf_spec, Value.map.sizeOf_spec] at hlist ⊢
          omega
        exact check_induction step v b h.2
      | _ => cases hchecked
  | .null, _, h | .bool _, _, h | .int _, _, h | .float _, _, h | .str _, _, h | .list _, _, h
  | .date _, _, h | .moment _, _, h | .bytes _, _, h | .set _, _, h | .pair _ _, _, h => by cases h
termination_by v => sizeOf v
decreasing_by exact hsize

/-- A block that is read from data of JSON has data of JSON. -/
theorem isJson_of_check {v : Value} {b : ParsedBlock} (hb : check v = .valid b) :
    v.isJson → b.toValue.isJson := by
  refine check_induction (P := fun v b => v.isJson → b.toValue.isJson) ?_ v b hb
  intro es items name attrs html inner _ hattrs _ hitems hinner h
  have hobject : (Value.object attrs).isJson := by
    rcases memberOr_eq_valid.mp hattrs with ⟨-, rfl⟩ | ⟨v, hv, hattrs⟩
    · rfl
    · exact isJson_of_checkAttrs (isJson_of_given? h hv) hattrs
  have hlist : ∀ v ∈ items, v.isJson := by
    cases hv : given? "innerBlocks" "inner_blocks" es with
    | none =>
      rw [hv] at hitems
      cases hitems
      exact fun _ h => (List.not_mem_nil h).elim
    | some v =>
      rw [hv] at hitems
      cases hitems
      exact Value.isJson_list.mp (isJson_of_given? h hv)
  exact isJson_toValue.mpr ⟨hobject, forall_mem_of_forall₂ hinner hlist⟩

/-- Data of blocks is accepted if each item is a valid block. -/
theorem checkAll_eq_ok {vs : List Value} {blocks : List ParsedBlock} :
    checkAll vs = .ok blocks ↔ List.Forall₂ (fun v b => check v = .valid b) vs blocks := by
  induction vs generalizing blocks with
  | nil => simp [checkAll, eq_comm]
  | cons v rest ih =>
    rw [checkAll, List.forall₂_cons_left_iff]
    cases check v with
    | invalid complaints => simp
    | valid b =>
      simp only [map_eq_ok, ih, Checked.valid.injEq, exists_and_left, exists_eq_left']
      exact exists_congr fun others => and_congr_right fun _ => eq_comm

theorem isJson_of_checkAll {vs : List Value} {blocks : List ParsedBlock} (h : ∀ v ∈ vs, v.isJson)
    (hblocks : checkAll vs = .ok blocks) : ∀ b ∈ blocks, b.toValue.isJson :=
  forall_mem_of_forall₂ ((checkAll_eq_ok.mp hblocks).imp fun _ _ hb => isJson_of_check hb) h

theorem isJson_of_listOfData {data : Value} {blocks : List ParsedBlock} (h : data.isJson)
    (hblocks : listOfData data = .ok blocks) : ∀ b ∈ blocks, b.toValue.isJson := by
  cases data with
  | list vs => exact isJson_of_checkAll (Value.isJson_list.mp h) hblocks
  | _ => cases hblocks

end ParsedBlock

/-! ### Metadata -/

/-- The values of a mapping are data of JSON, whatever its keys are. -/
def Value.holdsJson : Value → Bool
  | map entries => entries.all fun e => e.2.isJson
  | _ => true

namespace Metadata
variable {m n : Metadata} {key values : Value}

/-- All values that metadata stores are data of JSON. -/
def IsJson (m : Metadata) : Prop := ∀ post key v, m.find? post key = some v → v.isJson

theorem isJson_empty : empty.IsJson := fun _ _ _ h => by cases h

theorem isJson_of_twoParts? {v a b : Value} (h : v.isJson) (hparts : twoParts? v = some (a, b)) :
    b.isJson := by
  unfold twoParts? at hparts
  split at hparts
  · cases hparts
    exact Value.isJson_list.mp h b (by simp)
  · cases h
  · cases h
  · -- the second part is a key, and keys of JSON are names
    rename_i x y
    cases hparts
    obtain ⟨members, hmembers, -⟩ := Value.exists_members h
    have hmem : (b, y) ∈ members.map fun m => (Value.str m.1, m.2) := by
      rw [← hmembers]
      exact List.mem_cons_of_mem _ List.mem_cons_self
    obtain ⟨m, -, hm⟩ := List.mem_map.mp hmem
    obtain ⟨rfl, -⟩ := Prod.mk.inj hm
    rfl
  · split at hparts
    · cases hparts
      rfl
    · cases hparts
  · cases h
  · cases hparts

theorem isJson_of_entriesOfItems? {vs : List Value} {es : List (Value × Value)}
    (h : ∀ v ∈ vs, v.isJson) (hes : entriesOfItems? vs = some es) : ∀ e ∈ es, e.2.isJson := by
  induction vs generalizing es with
  | nil =>
    cases hes
    exact fun _ h => (List.not_mem_nil h).elim
  | cons v rest ih =>
    obtain ⟨hv, hrest⟩ := List.forall_mem_cons.mp h
    obtain ⟨⟨k, x⟩, hparts, hes⟩ := Option.bind_eq_some_iff.mp hes
    simp only at hes
    split at hes
    · obtain ⟨others, hothers, rfl⟩ := Option.map_eq_some_iff.mp hes
      exact List.forall_mem_cons.mpr ⟨isJson_of_twoParts? hv hparts, ih hrest hothers⟩
    · cases hes

theorem isJson_of_entries? {es : List (Value × Value)} (h : values.isJson)
    (hes : entries? values = some es) : ∀ e ∈ es, e.2.isJson := by
  cases values with
  | map entries =>
    cases hes
    obtain ⟨members, rfl, -, hvalues⟩ := Value.exists_members h
    exact List.forall_mem_map.mpr hvalues
  | list vs => exact isJson_of_entriesOfItems? (Value.isJson_list.mp h) hes
  | str s =>
    rw [entries?] at hes
    split at hes
    · cases hes
      exact fun _ h => (List.not_mem_nil h).elim
    · cases hes
  | set members => cases h
  | pair a b => cases h
  | bytes octets => cases h
  | _ => cases hes

theorem isJson_namedEntries {es : List (Value × Value)} (h : ∀ e ∈ es, e.2.isJson) :
    ∀ m ∈ namedEntries es, m.2.isJson := by
  intro m hm
  obtain ⟨e, he, hm⟩ := List.mem_filterMap.mp (Entries.mem_of_mem_ofList hm)
  split at hm
  · cases hm
    exact h _ he
  · cases hm

/-- One more post keeps metadata data of JSON. -/
theorem isJson_addPost (hm : m.IsJson) (h : values.isJson) (hn : m.addPost key values = .ok n) :
    n.IsJson := by
  unfold addPost at hn
  cases hes : entries? values with
  | none =>
    rw [hes] at hn
    cases hn
  | some es =>
    rw [hes] at hn
    obtain ⟨number, -, hn⟩ := bind_eq_ok.mp hn
    cases hn
    intro post key' v hv
    obtain ⟨found, hfound, hv⟩ := Option.bind_eq_some_iff.mp hv
    by_cases hpost : post = number
    · subst hpost
      rw [Entries.find?_put_self] at hfound
      cases hfound
      exact isJson_namedEntries (isJson_of_entries? h hes) _ (Entries.mem_of_find? hv)
    · rw [Entries.find?_put_ne hpost] at hfound
      exact hm post key' v (Option.bind_eq_some_iff.mpr ⟨found, hfound, hv⟩)

theorem isJson_foldlM {es : List (Value × Value)} (h : ∀ e ∈ es, e.2.isJson) (hm : m.IsJson)
    (hn : es.foldlM (fun m e => m.addPost e.1 e.2) m = .ok n) : n.IsJson := by
  induction es generalizing m with
  | nil =>
    cases hn
    exact hm
  | cons e rest ih =>
    obtain ⟨he, hrest⟩ := List.forall_mem_cons.mp h
    rw [List.foldlM_cons, bind_eq_ok] at hn
    obtain ⟨added, hadded, hn⟩ := hn
    exact ih hrest (isJson_addPost hm he hadded) hn

/-- What is stored are the values of posts; the keys of posts may be of any kind. -/
theorem isJson_ofData {es : List (Value × Value)} (h : (Value.map es).holdsJson)
    (hm : ofData (.map es) = .ok m) : m.IsJson :=
  isJson_foldlM (List.all_eq_true.mp h) isJson_empty hm

theorem isJson_ofFile {f : InputFile} (h : f.data.toOption.all Value.holdsJson)
    (hm : ofFile f = .ok m) : m.IsJson := by
  obtain ⟨data, hdata, hm⟩ := bind_eq_ok.mp hm
  rw [hdata] at h
  split at hm
  · exact isJson_ofData h hm
  · cases hm

end Metadata

end EditorBlocks
