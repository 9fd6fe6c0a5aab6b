import EditorBlocks.Proofs.Attribute.Merge
import EditorBlocks.Proofs.Attribute.Referenced
import EditorBlocks.Proofs.Input.Loading
/-! Attributes of JSON: what definitions of JSON find, over metadata of JSON, is data of JSON. -/

namespace EditorBlocks

namespace Node

mutual
theorem isJson_of_outline? : ∀ (n : Node) (v : Value), n.outline? = some v → v.isJson
  | element tag children, v, h => by
    rw [outline?, Option.some.injEq] at h
    have hnames : ["type", "children"].Nodup := by decide
    have hchildren := Value.isJson_list.mpr (isJson_outlines children)
    rw [← h, Value.isJson_object]
    exact ⟨hnames, List.forall_mem_cons.mpr ⟨rfl, List.forall_mem_singleton.mpr hchildren⟩⟩
  | text data, v, h => by
    rw [outline?] at h
    split at h
    · cases h
    · cases h
      rfl
  | comment _, _, h => by cases h

theorem isJson_outlines : ∀ (ns : List Node), ∀ v ∈ outlines ns, v.isJson
  | [], _, h => (List.not_mem_nil h).elim
  | n :: rest, v, h => by
    rw [outlines] at h
    split at h
    · rename_i first hfirst
      rcases List.mem_cons.mp h with rfl | h
      · exact isJson_of_outline? n v hfirst
      · exact isJson_outlines rest v h
    · exact isJson_outlines rest v h
end

end Node

section Resolve
variable {data : PostData} {attrs : PlacedAttrs} {s : Scope} {held : Held}

namespace AttributeRule
variable {rule : AttributeRule}

theorem isJson_contentItems (s : Scope) : ∀ v ∈ contentItems s, v.isJson := by
  intro v hv
  unfold contentItems at hv
  split at hv
  · exact (List.not_mem_nil hv).elim
  · split at hv
    · rw [Option.mem_toList, Option.map_eq_some_iff] at hv
      obtain ⟨text, -, rfl⟩ := hv
      rfl
    · obtain ⟨n, -, hn⟩ := List.mem_filterMap.mp hv
      exact Node.isJson_of_outline? n v hn

theorem isJson_of_find (hm : data.metadata.IsJson)
    (h : (rule.find data s).outcome = .ok (some held)) : (data.settle attrs held).isJson := by
  cases kind_of_find h with
  | text text => rfl
  | outline hv => exact Node.isJson_of_outline? _ _ hv
  | items t => exact Value.isJson_list.mpr (isJson_contentItems t)
  | metadata h =>
    obtain ⟨post, key, v, -, -, hf, -, rfl⟩ := stored_of_metadataValue h
    rw [PostData.settle, Held.settle, Shared.stored, hf]
    exact hm post key v hf

theorem isJson_fallbackValue (hr : rule.IsJson) (h : rule.fallbackValue = some held) :
    (data.settle attrs held).isJson := by
  unfold fallbackValue at h
  split at h
  · cases h
  · cases h
    exact hr.fallback

end AttributeRule

namespace AttributeDefinition

mutual
/-- What a definition finds is data of JSON. -/
theorem isJson_of_resolve (hm : data.metadata.IsJson) : ∀ (d : AttributeDefinition), d.IsJson →
    ∀ (s : Scope) (held : Held), (d.resolve data s).outcome = .ok (some held) →
      (data.settle attrs held).isJson
  | mk rule query, h, s, held, hheld => by
    rcases resolve_eq_some hheld with hf | ⟨records, rfl, hrecords⟩ | ⟨rfl, -⟩
    · exact AttributeRule.isJson_of_find hm hf
    · have hquery : ∀ items, query = some items → AreJson items := by
        rintro items rfl
        cases h with
        | query _ hnames hitems => exact ⟨hnames, hitems⟩
      rw [PostData.settle, Held.settle, Held.settleItems_eq_map, List.map_map, Value.isJson_list,
        List.forall_mem_map]
      intro r hr
      obtain ⟨m, hr⟩ := hrecords r hr
      have hmembers := isJson_of_resolveQuery hm query hquery m r hr
      rw [Function.comp_apply, Held.settle, Held.settleMembers_eq_mapValues]
      exact hmembers
    · exact h.rule.fallback

theorem isJson_of_resolveQuery (hm : data.metadata.IsJson) :
    ∀ (query : Option (List (String × AttributeDefinition))),
      (∀ items, query = some items → AreJson items) → ∀ (m : Scope) (ms : List (String × Held)),
      (resolveQuery data m query).outcome = .ok ms →
        (Value.object (Entries.mapValues (data.settle attrs) ms)).isJson
  | none, _, m, ms, hms => by
    simp only [resolveQuery, Log.Noted.outcome_pure, Except.ok.injEq] at hms
    rw [← hms]
    rfl
  | some items, h, m, ms, hms => by
    obtain ⟨hnames, hitems⟩ := h items rfl
    obtain ⟨hsub, hvalues⟩ := isJson_of_resolveItems hm items hitems m ms hms
    rw [Value.isJson_object, Entries.keys_mapValues]
    exact ⟨hnames.sublist hsub, List.forall_mem_map.mpr hvalues⟩

theorem isJson_of_resolveItems (hm : data.metadata.IsJson) :
    ∀ (items : List (String × AttributeDefinition)), (∀ item ∈ items, item.2.IsJson) →
      ∀ (m : Scope) (ms : List (String × Held)), (resolveItems data m items).outcome = .ok ms →
        (Entries.keys ms).Sublist (Entries.keys items) ∧ ∀ e ∈ ms, (data.settle attrs e.2).isJson
  | [], _, m, ms, hms => by
    simp only [resolveItems, Log.Noted.outcome_pure, Except.ok.injEq] at hms
    rw [← hms]
    exact ⟨.slnil, fun _ h => (List.not_mem_nil h).elim⟩
  | item :: rest, h, m, ms, hms => by
    obtain ⟨hitem, hrest⟩ := List.forall_mem_cons.mp h
    rw [resolveItems] at hms
    obtain ⟨first, hfirst, hms⟩ := Log.Noted.outcome_bind_eq_ok.mp hms
    obtain ⟨others, hothers, hms⟩ := Log.Noted.outcome_bind_eq_ok.mp hms
    simp only [Log.Noted.outcome_pure, Except.ok.injEq] at hms
    obtain ⟨hsub, hvalues⟩ := isJson_of_resolveItems hm rest hrest m others hothers
    rw [← hms]
    cases first with
    | none => exact ⟨hsub.cons _, hvalues⟩
    | some member =>
      obtain ⟨hname, hvalue⟩ := isJson_of_resolveItem hm item hitem m member hfirst
      refine ⟨?_, List.forall_mem_cons.mpr ⟨hvalue, hvalues⟩⟩
      rw [Option.toList_some, List.singleton_append, Entries.keys, List.map_cons, hname]
      exact hsub.cons_cons _

theorem isJson_of_resolveItem (hm : data.metadata.IsJson) :
    ∀ (item : String × AttributeDefinition), item.2.IsJson →
      ∀ (m : Scope) (member : String × Held),
      (resolveItem data m item).outcome = .ok (some member) →
        member.1 = item.1 ∧ (data.settle attrs member.2).isJson
  | (name, d), h, m, member, hmember => by
    rw [resolveItem] at hmember
    obtain ⟨value, hvalue, hmember⟩ := Log.Noted.outcome_bind_eq_ok.mp hmember
    simp only [Log.Noted.outcome_pure, Except.ok.injEq, Option.map_eq_some_iff] at hmember
    obtain ⟨held, rfl, rfl⟩ := hmember
    exact ⟨rfl, isJson_of_resolve hm d h m held hvalue⟩
end

/-- What a definition adds to attributes is data of JSON. -/
theorem Adds.isJson {d : AttributeDefinition} {present : Bool} (hm : data.metadata.IsJson)
    (hd : d.IsJson) (h : d.Adds data s present (some held)) : (data.settle attrs held).isJson := by
  unfold Adds at h
  split at h
  · exact isJson_of_resolve hm d hd s held h
  · split at h
    · cases h
    · exact AttributeRule.isJson_fallbackValue hd.rule h.symm

end AttributeDefinition

namespace SourcingPlan

/-- Attributes that are data of JSON stay so when the values of definitions are added. -/
theorem isJson_sourceEach (data : PostData) (hm : data.metadata.IsJson)
    {definitions : List (String × AttributeDefinition)} (hd : ∀ e ∈ definitions, e.2.IsJson)
    {attributes merged : List (String × Held)}
    (ha : (Value.object (Entries.mapValues (data.settle attrs) attributes)).isJson)
    (h : (sourceEach data s definitions attributes).outcome = .ok merged) :
    (Value.object (Entries.mapValues (data.settle attrs) merged)).isJson := by
  induction definitions generalizing attributes with
  | nil =>
    simp only [sourceEach, Log.Noted.outcome_pure, Except.ok.injEq] at h
    rwa [← h]
  | cons entry rest ih =>
    obtain ⟨name, d⟩ := entry
    obtain ⟨hfirst, hrest⟩ := List.forall_mem_cons.mp hd
    obtain ⟨added, hadded, h⟩ := sourceEach_cons h
    refine ih hrest ?_ h
    cases added with
    | none => exact ha
    | some held =>
      rw [Entries.putAny, Entries.mapValues_put]
      exact Value.isJson_put ha (hadded.isJson hm hfirst)

end SourcingPlan

end Resolve
end EditorBlocks
