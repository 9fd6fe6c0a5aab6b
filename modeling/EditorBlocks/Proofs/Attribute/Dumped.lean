import EditorBlocks.Attribute.Resolution
import EditorBlocks.Proofs.Input.Loading
/-! Definitions shown as data: the object without its null members is a definition again. It lacks
the members without meaning that were null, and otherwise says the same. -/

namespace EditorBlocks

namespace Entries
variable {κ α β : Type} [DecidableEq κ] {k : κ} {es : List (κ × α)}

/-- A key whose value is left out has no other. -/
theorem find?_filter (p : α → Bool) (h : (keys es).Nodup) :
    find? k (es.filter fun e => p e.2) = (find? k es).filter p := by
  induction es with
  | nil => rfl
  | cons e rest ih =>
    obtain ⟨k', v⟩ := e
    obtain ⟨hnew, hrest⟩ := List.nodup_cons.mp h
    rw [List.filter_cons, find?]
    by_cases hk : k' = k
    · subst hk
      have hnone : find? k' (rest.filter fun e => p e.2) = none := by
        rw [ih hrest, find?_eq_none_iff.mpr hnew]
        rfl
      cases hp : p v <;> simp [find?, hp, hnone, Option.filter]
    · cases hp : p v <;> simp [find?, hk, ih hrest]

theorem putAll_of_nodup {new : List (κ × α)} (h : (keys (es ++ new)).Nodup) :
    putAll es new = es ++ new := by
  induction new generalizing es with
  | nil => exact (List.append_nil es).symm
  | cons e rest ih =>
    have hnew : e.1 ∉ keys es := by
      rw [keys, List.map_append, List.nodup_append] at h
      exact fun hmem => h.2.2 e.1 hmem e.1 List.mem_cons_self rfl
    have hsplit : es ++ e :: rest = (es ++ [e]) ++ rest := by simp
    rw [hsplit] at h ⊢
    change putAll (put e.1 e.2 es) rest = _
    rw [put_of_not_mem hnew, ih h]

/-- Entries that have a key each stay as they are. -/
theorem ofList_of_nodup (h : (keys es).Nodup) : ofList es = es := putAll_of_nodup h

end Entries

namespace Value
variable {members : List (String × Value)}

/-- Data of JSON with finite numbers; whole numbers can have any length. -/
inductive IsPlain : Value → Prop
  | null : IsPlain .null
  | bool (b : Bool) : IsPlain (.bool b)
  | int (n : Int) : IsPlain (.int n)
  | float (negative : Bool) (significand : Nat) (exponent : Int) :
    IsPlain (.float (.finite negative significand exponent))
  | str (s : String) : IsPlain (.str s)
  | list {items : List Value} (hitems : ∀ v ∈ items, IsPlain v) : IsPlain (.list items)
  | object {members : List (String × Value)} (hnames : (Entries.keys members).Nodup)
    (hvalues : ∀ m ∈ members, IsPlain m.2) : IsPlain (.object members)

theorem reducedItems_eq_map (items : List Value) : reducedItems items = items.map reduced := by
  induction items with
  | nil => rfl
  | cons v rest ih => rw [reducedItems, ih, List.map_cons]

theorem reducedEntries_members (members : List (String × Value)) :
    reducedEntries (members.map fun m => (.str m.1, m.2)) =
      members.map fun m => (m.1, m.2.reduced) := by
  induction members with
  | nil => rfl
  | cons m rest ih =>
    rw [List.map_cons, reducedEntries, ih]
    rfl

/-- Plain data can be held by JSON as it is. -/
theorem IsPlain.reduced_eq_self {v : Value} (h : v.IsPlain) : v.reduced = v := by
  induction h with
  | null | bool | int | float | str => rfl
  | list _ ih => rw [reduced, reducedItems_eq_map, List.map_congr_left ih, List.map_id']
  | @object members hnames _ ih =>
    have hsame : members.map (fun m => (m.1, m.2.reduced)) = members := by
      conv_rhs => rw [← List.map_id' members]
      exact List.map_congr_left fun m hm => by rw [ih m hm]
    rw [Value.object, reduced, reducedEntries_members, hsame, Entries.ofList_of_nodup hnames]
    rfl

theorem isPlain_object : (object members).IsPlain ↔
    (Entries.keys members).Nodup ∧ ∀ m ∈ members, m.2.IsPlain := by
  refine ⟨fun h => ?_, fun h => .object h.1 h.2⟩
  generalize hv : object members = v at h
  cases h with
  | object hnames hvalues =>
    rw [object_injective hv]
    exact ⟨hnames, hvalues⟩
  | _ => cases hv

end Value

/-! ### Reading definitions -/

namespace Checked

theorem memberOf?_members (name : String) (members : List (String × Value)) :
    memberOf? name (members.map fun m => (.str m.1, m.2)) = Entries.find? name members := by
  induction members with
  | nil => rfl
  | cons m rest ih =>
    rw [List.map_cons, memberOf?_cons, ih, Entries.find?]
    by_cases h : m.1 = name <;> simp [h]

end Checked

namespace AttributeDefinition

/-- A query is a mapping from names to definitions, or null. -/
def checkQuery : Value → Checked (Option (List (String × AttributeDefinition))) :=
  Checked.optional BlockType.checkAttributes

theorem checkIfQuery_str (k : String) (v : Value) :
    checkIfQuery (.str k, v) = if k == "query" then some (checkQuery v) else none := by
  by_cases hk : k = "query"
  · subst hk
    cases v <;> rfl
  · have hfalse : (k == "query") = false := beq_false_of_ne hk
    rw [hfalse]
    unfold checkIfQuery
    split <;> simp_all

/-- The query of a definition is its first member with that name. -/
theorem checkQueryMember_eq (es : List (Value × Value)) :
    checkQueryMember es = ((Checked.memberOf? "query" es).map checkQuery).getD (.valid none) := by
  induction es with
  | nil => rfl
  | cons e rest ih =>
    obtain ⟨k, v⟩ := e
    rw [checkQueryMember, ih]
    cases k with
    | str k =>
      rw [checkIfQuery_str, Checked.memberOf?_cons]
      cases k == "query" <;> rfl
    | _ => rfl

/-- What the members of an object say, read as a definition. -/
structure IsRead (es : List (Value × Value)) (rule : AttributeRule)
    (query : Option (List (String × AttributeDefinition))) : Prop where
  source : Checked.memberOr none "source" (Checked.optional AttributeSource.check) es =
    .valid rule.source
  selector : Checked.memberOr none "selector" (Checked.optional Checked.text) es =
    .valid rule.selector
  attributeName : Checked.memberOr none "attribute" (Checked.optional Checked.text) es =
    .valid rule.attributeName
  multiline : Checked.memberOr none "multiline" (Checked.optional Checked.text) es =
    .valid rule.multiline
  metaKey : Checked.memberOr none "meta" (Checked.optional Checked.text) es = .valid rule.metaKey
  fallback : (Checked.memberOf? "default" es).getD .null = rule.fallback
  query : Checked.memberOr none "query" checkQuery es = .valid query
  extras : checkExtras es = .valid rule.extras

theorem check_eq_valid {es : List (Value × Value)} {rule : AttributeRule}
    {query : Option (List (String × AttributeDefinition))} :
    check (.map es) = .valid (mk rule query) ↔ IsRead es rule query := by
  have hquery : checkQueryMember es = .valid query ↔
      Checked.memberOr none "query" checkQuery es = .valid query := by
    rw [checkQueryMember_eq, Checked.memberOr]
    cases Checked.memberOf? "query" es with
    | none => rfl
    | some v => exact Checked.within_eq_valid.symm
  simp only [check, Checked.seq_eq_valid, Checked.map_eq_valid, Checked.within_eq_valid]
  constructor
  · rintro ⟨_, extras, ⟨_, found, ⟨_, fallback, ⟨_, metaKey, ⟨_, multiline, ⟨_, attributeName,
      ⟨_, selector, ⟨source, hsource, rfl⟩, hselector, rfl⟩, hattribute, rfl⟩, hmultiline, rfl⟩,
      hmeta, rfl⟩, hfallback, rfl⟩, hfound, rfl⟩, hextras, h⟩
    cases h
    exact ⟨hsource, hselector, hattribute, hmultiline, hmeta, Checked.valid.inj hfallback,
      hquery.mp hfound, hextras⟩
  · rintro ⟨hsource, hselector, hattribute, hmultiline, hmeta, hfallback, hfound, hextras⟩
    exact ⟨_, _, ⟨_, _, ⟨_, _, ⟨_, _, ⟨_, _, ⟨_, _, ⟨_, _, ⟨_, hsource, rfl⟩, hselector, rfl⟩,
      hattribute, rfl⟩, hmultiline, rfl⟩, hmeta, rfl⟩, congrArg _ hfallback, rfl⟩, hquery.mpr hfound,
      rfl⟩, hextras, rfl⟩

theorem checkItems_eq_valid {es : List (Value × Value)}
    {items : List (String × AttributeDefinition)} : checkItems es = .valid items ↔
      List.Forall₂ (fun e item => e.1 = .str item.1 ∧ check e.2 = .valid item.2) es items := by
  induction es generalizing items with
  | nil => simp [checkItems, eq_comm]
  | cons e rest ih =>
    obtain ⟨k, v⟩ := e
    simp only [checkItems, checkItem, Checked.seq_eq_valid, Checked.map_eq_valid,
      Checked.within_eq_valid, Checked.key_eq_valid, ih, List.forall₂_cons_left_iff]
    constructor
    · rintro ⟨_, others, ⟨_, ⟨_, d, ⟨name, hname, rfl⟩, hd, rfl⟩, rfl⟩, hothers, rfl⟩
      exact ⟨(name, d), others, ⟨hname, hd⟩, hothers, rfl⟩
    · rintro ⟨⟨name, d⟩, others, ⟨hname, hd⟩, hothers, rfl⟩
      exact ⟨_, others, ⟨_, ⟨_, d, ⟨name, hname, rfl⟩, hd, rfl⟩, rfl⟩, hothers, rfl⟩

end AttributeDefinition

/-! ### Definitions of plain data -/

/-- All data that a rule keeps as it is given is plain data. -/
structure AttributeRule.IsPlain (rule : AttributeRule) : Prop where
  fallback : rule.fallback.IsPlain
  extras : (Value.object rule.extras).IsPlain
  apart : ∀ m ∈ rule.extras, m.1 ∉ AttributeDefinition.knownMembers

namespace AttributeDefinition

/-- A definition, and those of its query at any depth, keep plain data only. -/
inductive IsPlain : AttributeDefinition → Prop
  | mk {rule : AttributeRule} {query : Option (List (String × AttributeDefinition))}
    (hrule : rule.IsPlain) (hitems : ∀ item ∈ query.getD [], IsPlain item.2) :
    IsPlain (mk rule query)

theorem itemValues_keys (withNulls : Bool) (data : Value → Value)
    (items : List (String × AttributeDefinition)) :
    Entries.keys (itemValues withNulls data items) = Entries.keys items := by
  induction items with
  | nil => rfl
  | cons item rest ih =>
    obtain ⟨name, d⟩ := item
    rw [itemValues, itemValue]
    exact congrArg (name :: ·) ih

/-- The members of a definition as an object, but for what they are reduced to. -/
def members (withNulls : Bool) (data : Value → Value) (rule : AttributeRule)
    (query : Option (List (String × AttributeDefinition))) : List (String × Value) :=
  [("source", optionalText (rule.source.map (·.name))), ("selector", optionalText rule.selector),
    ("attribute", optionalText rule.attributeName), ("multiline", optionalText rule.multiline),
    ("meta", optionalText rule.metaKey), ("default", rule.fallback),
    ("query", queryValue withNulls data query)] ++ rule.extras

section Members
variable {withNulls : Bool} {data : Value → Value} {rule : AttributeRule}
  {query : Option (List (String × AttributeDefinition))}

theorem nodup_members (hnames : (Entries.keys rule.extras).Nodup)
    (hapart : ∀ m ∈ rule.extras, m.1 ∉ knownMembers) :
    (Entries.keys (members withNulls data rule query)).Nodup := by
  have hknown : knownMembers.Nodup := by decide
  rw [members, Entries.keys, List.map_append]
  refine List.nodup_append.mpr ⟨hknown, hnames, ?_⟩
  rintro name hname _ hextra rfl
  obtain ⟨m, hm, rfl⟩ := List.mem_map.mp hextra
  exact hapart m hm hname

/-- Among the members, those without a meaning are the extras. -/
theorem filter_members (hapart : ∀ m ∈ rule.extras, m.1 ∉ knownMembers) (p : Value → Bool) :
    ((members withNulls data rule query).filter fun m => p m.2).filter
      (fun m => !knownMembers.contains m.1) = rule.extras.filter fun m => p m.2 := by
  have hextras : (rule.extras.filter fun m => p m.2).filter
      (fun m => !knownMembers.contains m.1) = rule.extras.filter fun m => p m.2 := by
    refine List.filter_eq_self.mpr fun m hm => ?_
    rw [Bool.not_eq_true', List.contains_eq_mem, decide_eq_false_iff_not]
    exact hapart m (List.mem_of_mem_filter hm)
  rw [members, List.filter_append, List.filter_append, hextras]
  refine List.append_left_eq_self.mpr (List.filter_eq_nil_iff.mpr fun m hm => ?_)
  have hmem := List.mem_map_of_mem (f := Prod.fst) (List.mem_of_mem_filter hm)
  rw [Bool.not_eq_true, Bool.not_eq_false', List.contains_eq_mem, decide_eq_true_eq]
  exact hmem

end Members

end AttributeDefinition

/-! ### The dump -/

/-- The rule without the members that have no meaning and are null. -/
def AttributeRule.withoutNulls (rule : AttributeRule) : AttributeRule :=
  { rule with extras := rule.extras.filter fun m => !m.2.isNull }

namespace AttributeDefinition

mutual
/-- The definition without extra members that are null, at any depth of its queries. -/
def withoutNulls : AttributeDefinition → AttributeDefinition
  | mk rule query => mk rule.withoutNulls (withoutNullsQuery query)

def withoutNullsQuery :
    Option (List (String × AttributeDefinition)) → Option (List (String × AttributeDefinition))
  | none => none
  | some items => some (withoutNullsItems items)

def withoutNullsItems : List (String × AttributeDefinition) → List (String × AttributeDefinition)
  | [] => []
  | item :: rest => withoutNullsItem item :: withoutNullsItems rest

def withoutNullsItem : String × AttributeDefinition → String × AttributeDefinition
  | (name, d) => (name, withoutNulls d)
end

/-- The definition as debug data shows it: an object without null members. -/
def dump (d : AttributeDefinition) : Value := d.toValue false Value.reduced

/-- Definitions as debug data shows them. -/
def dumpItems (items : List (String × AttributeDefinition)) : Value :=
  .object (itemValues false Value.reduced items)

section Dump
variable {rule : AttributeRule} {query : Option (List (String × AttributeDefinition))}

/-- Plain data is shown as it is. -/
theorem dump_eq (h : rule.IsPlain) : (mk rule query).dump =
    .object ((members false Value.reduced rule query).filter fun m => !m.2.isNull) := by
  have htext (s : Option String) : (optionalText s).reduced = optionalText s := by
    cases s <;> rfl
  have hsame : ∀ m ∈ members false Value.reduced rule query, m.1 ≠ "query" → m.2.reduced = m.2 := by
    rw [members, List.forall_mem_append]
    refine ⟨?_, fun m hm _ => ((Value.isPlain_object.mp h.extras).2 m hm).reduced_eq_self⟩
    simp [htext, h.fallback.reduced_eq_self]
  rw [dump, toValue]
  simp only [Bool.false_or]
  refine congrArg Value.object ?_
  conv_rhs => rw [← List.map_id' (List.filter _ _)]
  refine List.map_congr_left fun ⟨name, v⟩ hm => ?_
  by_cases hquery : name = "query"
  · simp [hquery]
  · simp [hquery, hsame (name, v) (List.mem_of_mem_filter hm) hquery]

/-- A member that can be null can be left out. -/
theorem memberOr_dump {α : Type} {check : Value → Checked α} {name : String} {v : Value}
    {a : Option α} (h : rule.IsPlain)
    (hfind : Entries.find? name (members false Value.reduced rule query) = some v)
    (hv : Checked.optional check v = .valid a) :
    Checked.memberOr none name (Checked.optional check)
      (((members false Value.reduced rule query).filter fun m => !m.2.isNull).map
        fun m => (.str m.1, m.2)) = .valid a := by
  have hnames : (Entries.keys (members false Value.reduced rule query)).Nodup :=
    nodup_members (Value.isPlain_object.mp h.extras).1 h.apart
  rw [Checked.memberOr, Checked.memberOf?_members,
    Entries.find?_filter (fun v => !v.isNull) hnames, hfind]
  cases hnull : v.isNull with
  | false =>
    rw [Option.filter_some, hnull]
    exact Checked.within_eq_valid.mpr hv
  | true =>
    obtain rfl := Value.eq_null_of_isNull hnull
    exact hv

theorem optional_text (s : Option String) :
    Checked.optional Checked.text (optionalText s) = .valid s := by
  cases s <;> rfl

theorem optional_source (source : Option AttributeSource) :
    Checked.optional AttributeSource.check (optionalText (source.map (·.name))) = .valid source := by
  cases source with
  | none => rfl
  | some source =>
    change (AttributeSource.check (.str source.name)).map some = _
    rw [AttributeSource.check, AttributeSource.ofName?_name]
    rfl

/-- The dump of a rule is read as the rule, and its query as what the dumped query is read as. -/
theorem isRead_dump {found : Option (List (String × AttributeDefinition))} (h : rule.IsPlain)
    (hquery : checkQuery (queryValue false Value.reduced query) = .valid found) :
    IsRead (((members false Value.reduced rule query).filter fun m => !m.2.isNull).map
      fun m => (.str m.1, m.2)) rule.withoutNulls found where
  source := memberOr_dump h rfl (optional_source _)
  selector := memberOr_dump h rfl (optional_text _)
  attributeName := memberOr_dump h rfl (optional_text _)
  multiline := memberOr_dump h rfl (optional_text _)
  metaKey := memberOr_dump h rfl (optional_text _)
  fallback := by
    have hnames : (Entries.keys (members false Value.reduced rule query)).Nodup :=
      nodup_members (Value.isPlain_object.mp h.extras).1 h.apart
    have hfind : Entries.find? "default" (members false Value.reduced rule query) =
      some rule.fallback := rfl
    rw [Checked.memberOf?_members, Entries.find?_filter (fun v => !v.isNull) hnames, hfind,
      Option.filter_some]
    cases hnull : rule.fallback.isNull with
    | false => rfl
    | true => exact (Value.eq_null_of_isNull hnull).symm
  query := memberOr_dump h rfl hquery
  extras := by
    rw [checkExtras_members, filter_members h.apart (fun v => !v.isNull)]
    rfl

end Dump

mutual
/-- The dump of a definition is the definition again, but for extra members that were null. -/
theorem check_dump : ∀ {d : AttributeDefinition}, d.IsPlain → check d.dump = .valid d.withoutNulls
  | mk rule query, .mk hrule hitems => by
    have hquery : checkQuery (queryValue false Value.reduced query) =
        .valid (withoutNullsQuery query) := by
      cases query with
      | none => rfl
      | some items => exact congrArg (Checked.map some) (checkAttributes_dumpItems hitems)
    rw [dump_eq hrule, withoutNulls]
    exact check_eq_valid.mpr (isRead_dump hrule hquery)

theorem checkAttributes_dumpItems : ∀ {items : List (String × AttributeDefinition)},
    (∀ item ∈ items, item.2.IsPlain) →
      BlockType.checkAttributes (dumpItems items) = .valid (withoutNullsItems items)
  | [], _ => rfl
  | (name, d) :: rest, h => by
    obtain ⟨hfirst, hothers⟩ := List.forall_mem_cons.mp h
    have hd := check_dump hfirst
    have hrest := checkItems_eq_valid.mp (checkAttributes_dumpItems hothers)
    exact checkItems_eq_valid.mpr (.cons ⟨rfl, hd⟩ hrest)
end

mutual
/-- Without the members that the dump leaves out, a definition has the same dump. -/
theorem dump_withoutNulls : ∀ d : AttributeDefinition, d.withoutNulls.dump = d.dump
  | mk rule query => by
    have hquery : queryValue false Value.reduced (withoutNullsQuery query) =
        queryValue false Value.reduced query := by
      cases query with
      | none => rfl
      | some items => exact dumpItems_withoutNulls items
    rw [withoutNulls, dump, dump, toValue, toValue, hquery]
    simp only [AttributeRule.withoutNulls, Bool.false_or, List.filter_append, List.filter_filter,
      Bool.and_self]

theorem dumpItems_withoutNulls : ∀ items : List (String × AttributeDefinition),
    dumpItems (withoutNullsItems items) = dumpItems items
  | [] => rfl
  | (name, d) :: rest => by
    have hd := dump_withoutNulls d
    have hrest := Value.object_injective (dumpItems_withoutNulls rest)
    rw [dump, dump] at hd
    rw [withoutNullsItems, withoutNullsItem, dumpItems, dumpItems, itemValues, itemValues, itemValue,
      itemValue, hd, hrest]
end

theorem dataDepth_withoutNulls (rule : AttributeRule) :
    dataDepth rule.withoutNulls = dataDepth rule := by
  simp only [dataDepth, AttributeRule.withoutNulls, List.filter_cons, List.filter_filter,
    Bool.and_self]

mutual
/-- What the dump leaves out does not count for the depth of a definition. -/
theorem depth_withoutNulls : ∀ d : AttributeDefinition, d.withoutNulls.depth = d.depth
  | mk rule query => by
    have hquery : queryDepth (withoutNullsQuery query) = queryDepth query := by
      cases query with
      | none => rfl
      | some items => exact itemsDepth_withoutNulls items
    rw [withoutNulls, depth, depth, dataDepth_withoutNulls, hquery]

theorem itemsDepth_withoutNulls : ∀ items : List (String × AttributeDefinition),
    itemsDepth (withoutNullsItems items) = itemsDepth items
  | [] => rfl
  | (name, d) :: rest => by
    rw [withoutNullsItems, withoutNullsItem, itemsDepth, itemsDepth, itemDepth, itemDepth,
      depth_withoutNulls d, itemsDepth_withoutNulls rest]
end

mutual
/-- The members without a meaning have no part in what a definition finds. -/
theorem resolve_withoutNulls (data : PostData) : ∀ (d : AttributeDefinition) (s : Scope),
    d.withoutNulls.resolve data s = d.resolve data s
  | mk rule query, s => by
    have hquery := resolveQuery_withoutNulls data query
    have hfind : rule.withoutNulls.find data s = rule.find data s := rfl
    rw [withoutNulls, resolve, resolve]
    simp only [hquery, hfind]
    rfl

theorem resolveQuery_withoutNulls (data : PostData) :
    ∀ (query : Option (List (String × AttributeDefinition))) (m : Scope),
      resolveQuery data m (withoutNullsQuery query) = resolveQuery data m query
  | none, _ => rfl
  | some items, m => resolveItems_withoutNulls data items m

theorem resolveItems_withoutNulls (data : PostData) :
    ∀ (items : List (String × AttributeDefinition)) (m : Scope),
      resolveItems data m (withoutNullsItems items) = resolveItems data m items
  | [], _ => rfl
  | (name, d) :: rest, m => by
    rw [withoutNullsItems, withoutNullsItem, resolveItems, resolveItems, resolveItem, resolveItem,
      resolve_withoutNulls data d m, resolveItems_withoutNulls data rest m]
end

end AttributeDefinition
end EditorBlocks
