import EditorBlocks.Attribute.Resolution
import EditorBlocks.Proofs.Sourcing.Held
/-! What resolution finds: values of its own, values of the metadata, and lists of records of these. -/

namespace EditorBlocks

namespace AttributeRule
variable {rule : AttributeRule} {data : PostData} {s : Scope} {held : Held}

/-- Everything that a rule can find by itself. -/
inductive Finds (rule : AttributeRule) (data : PostData) : Held → Prop
  | own {v : Value} (hv : v ≠ .null) : Finds rule data (.own v)
  | stored {post : Int} {key : String} {v : Value} (hp : data.postId = some post)
      (hk : rule.metaKey = some key) (hf : data.metadata.find? post key = some v)
      (hv : v ≠ .null) : Finds rule data (.stored post key)

/-- The kinds of values that a rule finds: a text, the outline of a node, the content of an element, or
a value of the metadata. -/
inductive Kind (data : PostData) (key : Option String) : Held → Prop
  | text (text : String) : Kind data key (.own (.str text))
  | outline {node : Node} {v : Value} (hv : node.outline? = some v) : Kind data key (.own v)
  | items (s : Scope) : Kind data key (.own (.list (contentItems s)))
  | metadata {held : Held} (h : (metadataValue data key).outcome = .ok (some held)) :
    Kind data key held

theorem kind_of_ownText {text : Option String} {key : Option String}
    (h : ownText text = some held) : Kind data key held := by
  obtain ⟨s, -, rfl⟩ := Option.map_eq_some_iff.mp h
  exact .text s

theorem kind_of_linesHtml {selector : String} {key : Option String}
    (h : (some <$> linesHtml s selector).outcome = .ok (some held)) : Kind data key held := by
  rw [← bind_pure_comp, linesHtml, bind_assoc] at h
  obtain ⟨lines, -, h⟩ := Log.Noted.outcome_bind_eq_ok.mp h
  simp only [pure_bind, Log.Noted.outcome_pure, Except.ok.injEq, Option.some.injEq] at h
  exact h ▸ .text _

theorem kind_of_find (h : (rule.find data s).outcome = .ok (some held)) :
    Kind data rule.metaKey held := by
  unfold find at h
  split at h
  case h_1 | h_2 => simp at h
  case h_9 => exact kind_of_ownText (by simpa using h)
  case h_10 => exact .metadata h
  -- The other sources read a scope that a selector may have narrowed.
  all_goals obtain ⟨found, -, h⟩ := Log.Noted.outcome_bind_eq_ok.mp h
  case h_5 =>
    split at h
    · simp at h
    · split at h
      · exact kind_of_ownText (by simpa using h)
      · exact kind_of_linesHtml h
  case h_11 =>
    simp only [Log.Noted.outcome_pure, Except.ok.injEq] at h
    obtain ⟨v, hv, rfl⟩ := Option.map_eq_some_iff.mp h
    obtain ⟨node, -, hv⟩ := Option.bind_eq_some_iff.mp hv
    exact .outline hv
  case h_12 =>
    simp only [Log.Noted.outcome_pure, Except.ok.injEq, Option.some.injEq] at h
    exact h ▸ .items _
  all_goals simp only [Log.Noted.outcome_pure, Except.ok.injEq] at h
  case h_3 | h_4 =>
    split at h
    · simp at h
    · exact kind_of_ownText h
  all_goals exact kind_of_ownText h

theorem stored_of_metadataValue {key? : Option String}
    (h : (metadataValue data key?).outcome = .ok (some held)) :
    ∃ post key v, data.postId = some post ∧ key? = some key ∧
      data.metadata.find? post key = some v ∧ v ≠ .null ∧ held = .stored post key := by
  unfold metadataValue at h
  split at h
  · rename_i post key hp
    split at h
    · obtain ⟨_, -, h⟩ := Log.Noted.outcome_bind_eq_ok.mp h
      simp at h
    · simp at h
    · rename_i v hv hf
      simp only [Log.Noted.outcome_pure, Except.ok.injEq, Option.some.injEq] at h
      exact ⟨post, key, v, hp, rfl, hf, hv, h.symm⟩
  · simp at h

theorem outline?_ne_null {node : Node} {v : Value} (h : node.outline? = some v) : v ≠ .null := by
  cases node with
  | element tag children =>
    rw [Node.outline?, Option.some.injEq] at h
    simp [← h, Value.object]
  | text data =>
    rw [Node.outline?] at h
    split at h <;> simp_all
    simp [← h]
  | comment data => simp [Node.outline?] at h

theorem finds_of_find (h : (rule.find data s).outcome = .ok (some held)) :
    Finds rule data held := by
  cases kind_of_find h with
  | text text => exact .own (by simp)
  | outline hv => exact .own (outline?_ne_null hv)
  | items s => exact .own (by simp)
  | metadata h =>
    obtain ⟨post, key, v, hp, hk, hf, hv, rfl⟩ := stored_of_metadataValue h
    exact .stored hp hk hf hv

theorem Finds.places_eq (h : Finds rule data held) : held.places = [] := by
  cases h <;> rfl

theorem Finds.settle_ne_null {shared : Shared} (hm : shared.metadata = data.metadata)
    (h : Finds rule data held) : held.settle shared ≠ .null := by
  cases h with
  | own hv => exact hv
  | stored hp hk hf hv => simpa [Held.settle, Shared.stored, hm, hf] using hv

end AttributeRule

namespace AttributeDefinition
variable {data : PostData} {s m : Scope} {held : Held}

/-- A resolved value is found, made of the records of a query, or the fallback. -/
theorem resolve_eq_some {rule : AttributeRule}
    {query : Option (List (String × AttributeDefinition))}
    (h : (resolve data s (.mk rule query)).outcome = .ok (some held)) :
    (rule.find data s).outcome = .ok (some held) ∨
      (∃ records : List (List (String × Held)), held = .list (records.map .record) ∧
        ∀ r ∈ records, ∃ m, (resolveQuery data m query).outcome = .ok r) ∨
      (held = .own rule.fallback ∧ rule.fallback ≠ .null) := by
  have hfallback : rule.fallbackValue = some held →
      held = .own rule.fallback ∧ rule.fallback ≠ .null := by
    unfold AttributeRule.fallbackValue
    split
    · simp
    · rename_i hn
      intro h
      exact ⟨(Option.some.inj h).symm, fun he => hn (by simp [he, Value.isNull])⟩
  rw [resolve] at h
  split at h
  · obtain ⟨matched, -, h⟩ := Log.Noted.outcome_bind_eq_ok.mp h
    obtain ⟨records, hr, h⟩ := Log.Noted.outcome_bind_eq_ok.mp h
    simp only [pure_bind, Log.Noted.outcome_pure, Except.ok.injEq, Option.some_or,
      Option.some.injEq] at h
    refine .inr (.inl ⟨records, h.symm, fun r hmem => ?_⟩)
    obtain ⟨m, -, hm⟩ := Log.Noted.outcome_of_mem_mapM hr hmem
    exact ⟨m, hm⟩
  · obtain ⟨found, hfound, h⟩ := Log.Noted.outcome_bind_eq_ok.mp h
    simp only [Log.Noted.outcome_pure, Except.ok.injEq, Option.or_eq_some_iff] at h
    rcases h with rfl | ⟨-, h⟩
    · exact .inl hfound
    · exact .inr (.inr (hfallback h))

mutual
theorem places_of_resolve : ∀ (d : AttributeDefinition) {s : Scope} {held : Held},
    (d.resolve data s).outcome = .ok (some held) → held.places = []
  | .mk rule query, s, held, h => by
    rcases resolve_eq_some h with hf | ⟨records, rfl, hrecords⟩ | ⟨rfl, -⟩
    · exact (AttributeRule.finds_of_find hf).places_eq
    · apply Held.placesOfItems_map_record
      intro r hr
      obtain ⟨m, hm⟩ := hrecords r hr
      exact placesOfMembers_of_resolveQuery query hm
    · rfl

theorem placesOfMembers_of_resolveQuery :
    ∀ (query : Option (List (String × AttributeDefinition))) {m : Scope}
      {ms : List (String × Held)},
      (resolveQuery data m query).outcome = .ok ms → Held.placesOfMembers ms = []
  | none, m, ms, h => by
    simp only [resolveQuery, Log.Noted.outcome_pure, Except.ok.injEq] at h
    exact h ▸ rfl
  | some items, m, ms, h => placesOfMembers_of_resolveItems items h

theorem placesOfMembers_of_resolveItems :
    ∀ (items : List (String × AttributeDefinition)) {m : Scope} {ms : List (String × Held)},
      (resolveItems data m items).outcome = .ok ms → Held.placesOfMembers ms = []
  | [], m, ms, h => by
    simp only [resolveItems, Log.Noted.outcome_pure, Except.ok.injEq] at h
    exact h ▸ rfl
  | item :: rest, m, ms, h => by
    rw [resolveItems] at h
    obtain ⟨first, hfirst, h⟩ := Log.Noted.outcome_bind_eq_ok.mp h
    obtain ⟨others, hothers, h⟩ := Log.Noted.outcome_bind_eq_ok.mp h
    simp only [Log.Noted.outcome_pure, Except.ok.injEq] at h
    rw [← h, Held.placesOfMembers_append, placesOfMembers_of_resolveItems rest hothers,
      List.append_nil]
    cases first with
    | none => rfl
    | some member =>
      rw [Option.toList_some, Held.placesOfMembers, placesOfMember_of_resolveItem item hfirst]
      rfl

theorem placesOfMember_of_resolveItem :
    ∀ (item : String × AttributeDefinition) {m : Scope} {member : String × Held},
      (resolveItem data m item).outcome = .ok (some member) → Held.placesOfMember member = []
  | (name, d), m, member, h => by
    rw [resolveItem] at h
    obtain ⟨value, hvalue, h⟩ := Log.Noted.outcome_bind_eq_ok.mp h
    simp only [Log.Noted.outcome_pure, Except.ok.injEq, Option.map_eq_some_iff] at h
    obtain ⟨held, rfl, rfl⟩ := h
    exact places_of_resolve d hvalue
end

/-- A value that is resolved is never null: null is what nothing stands for. -/
theorem settle_ne_null_of_resolve {d : AttributeDefinition} {shared : Shared}
    (hm : shared.metadata = data.metadata)
    (h : (d.resolve data s).outcome = .ok (some held)) : held.settle shared ≠ .null := by
  obtain ⟨rule, query⟩ := d
  rcases resolve_eq_some h with h | ⟨records, rfl, -⟩ | ⟨rfl, hn⟩
  · exact (AttributeRule.finds_of_find h).settle_ne_null hm
  · simp [Held.settle]
  · exact hn

end AttributeDefinition
end EditorBlocks
