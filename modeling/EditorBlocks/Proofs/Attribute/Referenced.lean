import EditorBlocks.Proofs.Attribute.Lookups
import EditorBlocks.Proofs.Attribute.Resolution
/-! The keys of metadata that definitions name: resolution asks the metadata for nothing else, and
of the post only what it has under these keys. -/

namespace EditorBlocks

/-- What a post has under a key. Null stands for no value, and for no post. -/
def PostData.tells (data : PostData) (key : String) : Value :=
  match data.postId with
  | some post => data.metadata.tells post key
  | none => .null

/-- What comes of asking a post for a key. No post is never a fault. -/
def PostData.asked (data : PostData) (key : String) : Except Fault Unit :=
  match data.postId with
  | some post => data.metadata.asked post key
  | none => .ok ()

theorem PostData.asked_of_fits {data : PostData} (h : data.postId.all Text.fitsDigitLimit)
    (key : String) : data.asked key = .ok () := by
  obtain ⟨metadata, postId⟩ := data
  cases postId with
  | none => rfl
  | some post => exact Metadata.asked_of_fits h

namespace AttributeRule

/-- The key of metadata that a rule names by itself. -/
def metaKeys (rule : AttributeRule) : List String :=
  if rule.source = some .metadata then rule.metaKey.toList else []

end AttributeRule

namespace AttributeDefinition

mutual
/-- The keys of metadata that a definition names, at any depth of its queries. -/
def metaKeys : AttributeDefinition → List String
  | mk rule query => rule.metaKeys ++ queryMetaKeys query

def queryMetaKeys : Option (List (String × AttributeDefinition)) → List String
  | none => []
  | some items => itemsMetaKeys items

def itemsMetaKeys : List (String × AttributeDefinition) → List String
  | [] => []
  | item :: rest => itemMetaKeys item ++ itemsMetaKeys rest

def itemMetaKeys : String × AttributeDefinition → List String
  | (_, d) => metaKeys d
end

theorem metaKeys_subset_itemsMetaKeys {items : List (String × AttributeDefinition)}
    {e : String × AttributeDefinition} (h : e ∈ items) : e.2.metaKeys ⊆ itemsMetaKeys items := by
  induction items with
  | nil => cases h
  | cons item rest ih =>
    obtain ⟨name, d⟩ := item
    rw [itemsMetaKeys, itemMetaKeys]
    rcases List.mem_cons.mp h with rfl | h
    · exact List.subset_append_left _ _
    · exact List.subset_append_of_subset_right _ (ih h)

end AttributeDefinition

/-- The keys of metadata that the definitions of a registry name. -/
def Registry.metaKeys (r : Registry) : List String :=
  r.types.flatMap fun e => AttributeDefinition.itemsMetaKeys e.2.attributes

theorem Registry.metaKeys_subset {r : Registry} {name : String} {type : BlockType}
    (h : r.find? name = some type) :
    AttributeDefinition.itemsMetaKeys type.attributes ⊆ r.metaKeys := fun _ hkey =>
  List.mem_flatMap.mpr ⟨(name, type), Entries.mem_of_find? h, hkey⟩

/-- Two sets of data have the same under these keys, which are no fault to ask for, or one to both. -/
def PostData.AgreeOn (data data' : PostData) (keys : List String) : Prop :=
  ∀ key ∈ keys, data.tells key = data'.tells key ∧ data.asked key = data'.asked key

namespace PostData
variable {data data' : PostData} {keys others : List String}

theorem AgreeOn.subset (h : data.AgreeOn data' keys) (hs : others ⊆ keys) :
    data.AgreeOn data' others := fun key hk => h key (hs hk)

theorem agreeOn_append : data.AgreeOn data' (keys ++ others) ↔
    data.AgreeOn data' keys ∧ data.AgreeOn data' others := List.forall_mem_append

end PostData

namespace Held
variable {s t : Shared}

theorem settleItems_eq_map (hs : List Held) : settleItems s hs = hs.map (settle s) := by
  induction hs with
  | nil => rfl
  | cons h rest ih => rw [settleItems, ih, List.map_cons]

theorem settleMembers_eq_mapValues (ms : List (String × Held)) :
    settleMembers s ms = Entries.mapValues (settle s) ms := by
  induction ms with
  | nil => rfl
  | cons m rest ih =>
    obtain ⟨name, h⟩ := m
    rw [settleMembers, settleMember, ih]
    rfl

theorem settle_records (s : Shared) (records : List (List (String × Held))) :
    settle s (.list (records.map .record)) =
      .list ((records.map (Entries.mapValues (settle s))).map .object) := by
  rw [settle, settleItems_eq_map, List.map_map, List.map_map]
  congr 2
  funext members
  change settle s (.record members) = _
  rw [settle, settleMembers_eq_mapValues]
  rfl

/-- Records that settle to the same members make lists that settle to the same items. -/
theorem settle_records_congr {rs rs' : List (List (String × Held))}
    (h : rs.map (Entries.mapValues (settle s)) = rs'.map (Entries.mapValues (settle t))) :
    settle s (.list (rs.map .record)) = settle t (.list (rs'.map .record)) := by
  rw [settle_records, settle_records, h]

end Held

/-! ### Two computations with the same view -/

section View
variable {ε α β γ δ ζ θ : Type} {s : α → γ} {t : β → γ} {u : δ → θ} {v : ζ → θ}

/-- What is seen after two computations is the same, if it is the same after the first part and what
follows asks for no more than is seen. -/
theorem map_bind_congr {x : Except ε α} {y : Except ε β} {f : α → Except ε δ} {g : β → Except ε ζ}
    (h : x.map s = y.map t) (hf : ∀ a b, s a = t b → (f a).map u = (g b).map v) :
    (x >>= f).map u = (y >>= g).map v := by
  cases x with
  | error e =>
    cases y with
    | error e' =>
      cases h
      rfl
    | ok b => cases h
  | ok a =>
    cases y with
    | error e => cases h
    | ok b => exact hf a b (Except.ok.inj h)

theorem map_mapM_congr {f : α → Except ε δ} {g : α → Except ε ζ}
    (h : ∀ a, (f a).map u = (g a).map v) (as : List α) :
    (as.mapM f).map (List.map u) = (as.mapM g).map (List.map v) := by
  induction as with
  | nil => rfl
  | cons a rest ih =>
    rw [List.mapM_cons, List.mapM_cons]
    refine map_bind_congr (h a) fun b c hbc => map_bind_congr ih fun bs cs hrest => ?_
    change Except.ok (u b :: bs.map u) = Except.ok (v c :: cs.map v)
    rw [hbc, hrest]

end View

/-! ### Resolution over two sets of data -/

/-- What held values come to over the metadata of a post. -/
def PostData.settle (data : PostData) (attrs : PlacedAttrs) : Held → Value :=
  Held.settle ⟨data.metadata, attrs⟩

section Resolve
variable {data data' : PostData} {attrs : PlacedAttrs}

namespace AttributeRule
variable {rule : AttributeRule} {s : Scope}

theorem metadataValue_settled (data : PostData) (attrs : PlacedAttrs) (key : String) :
    (metadataValue data (some key)).outcome.map (Option.map (data.settle attrs)) =
      (data.asked key).map fun _ =>
        if (data.tells key).isNull then none else some (data.tells key) := by
  obtain ⟨metadata, postId⟩ := data
  cases postId with
  | none => rfl
  | some post =>
    have hasked : PostData.asked ⟨metadata, some post⟩ key = metadata.asked post key := rfl
    rw [outcome_metadataValue, hasked]
    cases metadata.asked post key with
    | error fault => rfl
    | ok _ =>
      change Except.ok (Option.map _ (if (metadata.tells post key).isNull then none else _)) =
        Except.ok (if (metadata.tells post key).isNull then none
          else some (metadata.tells post key))
      split <;> rfl

theorem find_of_not_metadata (data data' : PostData) (hs : rule.source ≠ some .metadata) :
    rule.find data s = rule.find data' s := by
  obtain ⟨source, selector, attributeName, multiline, metaKey, fallback, extras⟩ := rule
  cases source with
  | none => rfl
  | some source =>
    cases source with
    | metadata => exact absurd rfl hs
    | _ => rfl

/-- Without the metadata, a rule finds values of its own only. -/
theorem own_of_find {held : Held} (hs : rule.source ≠ some .metadata)
    (h : (rule.find data s).outcome = .ok (some held)) : ∃ v, held = .own v := by
  rw [find_of_not_metadata data ⟨.empty, none⟩ hs] at h
  cases finds_of_find h with
  | own => exact ⟨_, rfl⟩
  | stored hp => cases hp

theorem find_agree (attrs : PlacedAttrs) (h : data.AgreeOn data' rule.metaKeys) :
    (rule.find data s).outcome.map (Option.map (data.settle attrs)) =
      (rule.find data' s).outcome.map (Option.map (data'.settle attrs)) := by
  by_cases hs : rule.source = some .metadata
  · have hfind : ∀ d : PostData, rule.find d s = metadataValue d rule.metaKey := by
      intro d
      simp only [find, hs]
    rw [metaKeys, if_pos hs] at h
    rw [hfind, hfind]
    cases hk : rule.metaKey with
    | none =>
      obtain ⟨metadata, postId⟩ := data
      obtain ⟨metadata', postId'⟩ := data'
      cases postId <;> cases postId' <;> rfl
    | some key =>
      obtain ⟨htells, hasked⟩ := h key (by simp [hk])
      rw [metadataValue_settled, metadataValue_settled, htells, hasked]
  · rw [find_of_not_metadata data' data hs]
    cases hfound : (rule.find data s).outcome with
    | error e => rfl
    | ok found =>
      cases found with
      | none => rfl
      | some held =>
        obtain ⟨v, rfl⟩ := own_of_find hs hfound
        rfl

theorem fallbackValue_agree (rule : AttributeRule) (data data' : PostData)
    (attrs : PlacedAttrs) :
    rule.fallbackValue.map (data.settle attrs) = rule.fallbackValue.map (data'.settle attrs) := by
  unfold fallbackValue
  split <;> rfl

end AttributeRule

namespace AttributeDefinition

mutual
/-- Data that has the same under the keys of a definition is all the same to it. -/
theorem resolve_agree : ∀ (d : AttributeDefinition) (s : Scope), data.AgreeOn data' d.metaKeys →
    (d.resolve data s).outcome.map (Option.map (data.settle attrs)) =
      (d.resolve data' s).outcome.map (Option.map (data'.settle attrs))
  | mk rule query, s, h => by
    rw [metaKeys, PostData.agreeOn_append] at h
    have hor : ∀ found found' : Option Held,
        found.map (data.settle attrs) = found'.map (data'.settle attrs) →
        (found.or rule.fallbackValue).map (data.settle attrs) =
          (found'.or rule.fallbackValue).map (data'.settle attrs) := by
      intro found found' hfound
      rw [Option.map_or, Option.map_or, hfound, rule.fallbackValue_agree data data']
    rw [resolve, resolve]
    split
    · simp only [Log.Noted.outcome_bind, Log.Noted.outcome_mapM]
      refine map_bind_congr (s := id) (t := id) rfl fun matched _ hm => ?_
      cases hm
      have hrecords := map_mapM_congr (fun m => resolveQuery_agree query m h.2) matched.each
      refine map_bind_congr hrecords fun rs rs' hrs => congrArg Except.ok (hor _ _ ?_)
      exact congrArg some (Held.settle_records_congr hrs)
    · simp only [Log.Noted.outcome_bind]
      have hfind := AttributeRule.find_agree (s := s) attrs h.1
      exact map_bind_congr hfind fun found found' hfound => congrArg Except.ok (hor _ _ hfound)

theorem resolveQuery_agree : ∀ (query : Option (List (String × AttributeDefinition))) (m : Scope),
    data.AgreeOn data' (queryMetaKeys query) →
    (resolveQuery data m query).outcome.map (Entries.mapValues (data.settle attrs)) =
      (resolveQuery data' m query).outcome.map (Entries.mapValues (data'.settle attrs))
  | none, _, _ => rfl
  | some items, m, h => resolveItems_agree items m h

theorem resolveItems_agree : ∀ (items : List (String × AttributeDefinition)) (m : Scope),
    data.AgreeOn data' (itemsMetaKeys items) →
    (resolveItems data m items).outcome.map (Entries.mapValues (data.settle attrs)) =
      (resolveItems data' m items).outcome.map (Entries.mapValues (data'.settle attrs))
  | [], m, _ => rfl
  | item :: rest, m, h => by
    rw [itemsMetaKeys, PostData.agreeOn_append] at h
    simp only [resolveItems, Log.Noted.outcome_bind]
    refine map_bind_congr (resolveItem_agree item m h.1) fun first first' hfirst =>
      map_bind_congr (resolveItems_agree rest m h.2) fun others others' hothers => ?_
    refine congrArg Except.ok ?_
    rw [Entries.mapValues, Entries.mapValues, List.map_append, List.map_append,
      Option.toList_map.symm, Option.toList_map.symm, hfirst]
    exact congrArg _ hothers

theorem resolveItem_agree : ∀ (item : String × AttributeDefinition) (m : Scope),
    data.AgreeOn data' (itemMetaKeys item) →
    (resolveItem data m item).outcome.map (Option.map fun e => (e.1, data.settle attrs e.2)) =
      (resolveItem data' m item).outcome.map (Option.map fun e => (e.1, data'.settle attrs e.2))
  | (name, d), m, h => by
    simp only [resolveItem, Log.Noted.outcome_bind]
    refine map_bind_congr (resolve_agree d m h) fun value value' hvalue => ?_
    refine congrArg Except.ok ?_
    rw [Option.map_map, Option.map_map]
    have hpair := congrArg (Option.map (Prod.mk name)) hvalue
    rw [Option.map_map, Option.map_map] at hpair
    exact hpair
end

end AttributeDefinition

namespace SourcingPlan

/-- Two runs over definitions that begin with attributes of the same values. -/
theorem sourceEach_agree (s : Scope) {definitions : List (String × AttributeDefinition)}
    (h : ∀ e ∈ definitions, data.AgreeOn data' e.2.metaKeys)
    {attributes attributes' : List (String × Held)}
    (ha : Entries.mapValues (data.settle attrs) attributes =
      Entries.mapValues (data'.settle attrs) attributes') :
    (sourceEach data s definitions attributes).outcome.map
        (Entries.mapValues (data.settle attrs)) =
      (sourceEach data' s definitions attributes').outcome.map
        (Entries.mapValues (data'.settle attrs)) := by
  induction definitions generalizing attributes attributes' with
  | nil => exact congrArg Except.ok ha
  | cons entry rest ih =>
    obtain ⟨name, d⟩ := entry
    obtain ⟨hd, hrest⟩ := List.forall_mem_cons.mp h
    have hput : ∀ value value', data.settle attrs value = data'.settle attrs value' →
        Entries.mapValues (data.settle attrs) (Entries.put name value attributes) =
          Entries.mapValues (data'.settle attrs) (Entries.put name value' attributes') := by
      intro value value' hvalue
      rw [Entries.mapValues_put, Entries.mapValues_put, hvalue, ha]
    rw [sourceEach, sourceEach]
    split
    · rw [Log.Noted.outcome_bind, Log.Noted.outcome_bind]
      have hresolve : (d.resolve data s).outcome.map (Option.map (data.settle attrs)) =
          (d.resolve data' s).outcome.map (Option.map (data'.settle attrs)) := d.resolve_agree s hd
      refine map_bind_congr hresolve fun value? value?' hvalue => ?_
      cases value? with
      | none =>
        cases value?' with
        | none => exact ih hrest ha
        | some value' => cases hvalue
      | some value =>
        cases value?' with
        | none => cases hvalue
        | some value' => exact ih hrest (hput value value' (Option.some.inj hvalue))
    · have hhas : Entries.has name attributes = Entries.has name attributes' := by
        rw [← Entries.has_mapValues (data.settle attrs), ha, Entries.has_mapValues]
      rw [hhas]
      cases hf : d.rule.fallbackValue with
      | none => exact ih hrest ha
      | some value =>
        have hvalue : data.settle attrs value = data'.settle attrs value := by
          have hsame := d.rule.fallbackValue_agree data data' attrs
          rw [hf] at hsame
          exact Option.some.inj hsame
        simp only
        split
        · exact ih hrest ha
        · exact ih hrest (hput value value hvalue)

end SourcingPlan
end Resolve
end EditorBlocks
