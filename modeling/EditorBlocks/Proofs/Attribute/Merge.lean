import EditorBlocks.Proofs.Attribute.Resolution
import EditorBlocks.Sourcing.Blocks
/-! Explicit and sourced attributes in one ordered map: which value a key has, and at which place. -/

namespace EditorBlocks

namespace AttributeDefinition

/-- What a definition adds under its key. A fallback without a source gives way to a value that is
there. -/
def Adds (data : PostData) (s : Scope) (d : AttributeDefinition) (present : Bool)
    (added : Option Held) : Prop :=
  if d.isSourced then (d.resolve data s).outcome = .ok added
  else added = if present then none else d.rule.fallbackValue

/-- The value that a definition with a source finds in the HTML of a block. -/
def sourcedValue? (data : PostData) (html : String) (d : AttributeDefinition) : Option Value :=
  if d.isSourced then
    match (d.resolve data (Scope.ofFragment html)).outcome with
    | .ok found => found.map (Held.settle (.ofMetadata data.metadata))
    | .error _ => none
  else none

/-- The fallback of a definition without a source, unless it is null. -/
def unsourcedValue? (d : AttributeDefinition) : Option Value :=
  if d.isSourced || d.rule.fallback.isNull then none else some d.rule.fallback

section Settle
variable {data : PostData} {d : AttributeDefinition} {added : Option Held}
  {attrs : PlacedAttrs} {html : String} {present : Bool}

theorem sourcedValue?_of_not_isSourced (hs : d.isSourced = false) :
    d.sourcedValue? data html = none := by
  simp [sourcedValue?, hs]

theorem sourcedValue?_eq_map (hs : d.isSourced = true)
    (h : (d.resolve data (Scope.ofFragment html)).outcome = .ok added) :
    d.sourcedValue? data html = added.map (Held.settle ⟨data.metadata, attrs⟩) := by
  rw [sourcedValue?, if_pos hs, h]
  cases added with
  | none => rfl
  | some held =>
    have hsettle : held.settle (.ofMetadata data.metadata) = held.settle ⟨data.metadata, attrs⟩ := by
      refine Held.settle_congr ?_ held ?_
      · intro post key
        rfl
      · rw [places_of_resolve d h]
        exact fun _ hplace => (List.not_mem_nil hplace).elim
    exact congrArg some hsettle

theorem sourcedValue?_ne_null {v : Value} (h : d.sourcedValue? data html = some v) :
    v ≠ .null := by
  unfold sourcedValue? at h
  split at h
  · split at h
    · rename_i found hf
      obtain ⟨held, rfl, rfl⟩ := Option.map_eq_some_iff.mp h
      exact settle_ne_null_of_resolve rfl hf
    · simp at h
  · simp at h

theorem unsourcedValue?_ne_null {v : Value} (h : d.unsourcedValue? = some v) : v ≠ .null := by
  unfold unsourcedValue? at h
  split at h
  · simp at h
  · rename_i hn
    rintro rfl
    simp [Option.some.inj h, Value.isNull] at hn

/-- A fallback is copied: what is added is a value of its own. -/
theorem Adds.eq_own {s : Scope} {v : Value} (h : d.Adds data s present added)
    (hp : present = false) (hv : d.unsourcedValue? = some v) : added = some (.own v) := by
  unfold unsourcedValue? at hv
  split at hv
  · simp at hv
  · rename_i hn
    simp only [Bool.or_eq_true, not_or, Bool.not_eq_true] at hn
    simp only [Adds, hn.1, hp, Bool.false_eq_true, ↓reduceIte] at h
    rw [h, AttributeRule.fallbackValue, hn.2, Option.some.inj hv]
    rfl

theorem settle_fallbackValue (hs : d.isSourced = false) (shared : Shared) :
    d.rule.fallbackValue.map (Held.settle shared) = d.unsourcedValue? := by
  unfold AttributeRule.fallbackValue unsourcedValue?
  by_cases hn : d.rule.fallback.isNull <;> simp [hs, hn, Held.settle]

theorem Adds.settle (h : d.Adds data (Scope.ofFragment html) present added) :
    added.map (Held.settle ⟨data.metadata, attrs⟩) =
      (d.sourcedValue? data html).or (if present then none else d.unsourcedValue?) := by
  unfold Adds at h
  split at h
  · rename_i hs
    simp [← sourcedValue?_eq_map hs h, unsourcedValue?, hs]
  · rename_i hs
    have hs : d.isSourced = false := by simpa using hs
    rw [h, sourcedValue?_of_not_isSourced hs, Option.none_or]
    split
    · rfl
    · exact settle_fallbackValue hs _

theorem Adds.places_eq {s : Scope} {held : Held} (h : d.Adds data s present (some held)) :
    held.places = [] := by
  unfold Adds at h
  split at h
  · exact places_of_resolve d h
  · split at h
    · cases h
    · unfold AttributeRule.fallbackValue at h
      split at h
      · cases h
      · cases h
        rfl

end Settle

end AttributeDefinition

namespace Entries
variable {α : Type} {k k' : String} {v? : Option α} {es : List (String × α)}

/-- Puts a value if there is one. -/
def putAny (k : String) (v? : Option α) (es : List (String × α)) : List (String × α) :=
  match v? with
  | some v => put k v es
  | none => es

theorem find?_putAny_self : find? k (putAny k v? es) = v?.or (find? k es) := by
  cases v? with
  | none => rfl
  | some v => exact find?_put_self k v es

theorem find?_putAny_ne (h : k' ≠ k) : find? k' (putAny k v? es) = find? k' es := by
  cases v? with
  | none => rfl
  | some v => exact find?_put_ne h v es

theorem keys_putAny :
    keys (putAny k v? es) = keys es ++ if k ∉ keys es ∧ v?.isSome then [k] else [] := by
  cases v? with
  | none => simp [putAny]
  | some v =>
    by_cases h : k ∈ keys es
    · simp [putAny, keys_put_of_mem h, h]
    · simp [putAny, keys_put_of_not_mem h, h]

theorem mem_putAny {e : String × α} (h : e ∈ putAny k v? es) :
    (∃ v, v? = some v ∧ e = (k, v)) ∨ e ∈ es := by
  cases v? with
  | none => exact .inr h
  | some v => exact (mem_of_mem_put h).imp_left fun he => ⟨v, rfl, he⟩

end Entries

namespace SourcingPlan
variable {data : PostData} {s : Scope} {attributes merged : List (String × Held)}

theorem sourceEach_cons {name : String} {d : AttributeDefinition}
    {rest : List (String × AttributeDefinition)}
    (h : (sourceEach data s ((name, d) :: rest) attributes).outcome = .ok merged) :
    ∃ added, d.Adds data s (Entries.has name attributes) added ∧
      (sourceEach data s rest (Entries.putAny name added attributes)).outcome = .ok merged := by
  rw [sourceEach] at h
  unfold AttributeDefinition.Adds
  split at h
  · rename_i hs
    obtain ⟨added, hadded, h⟩ := Log.Noted.outcome_bind_eq_ok.mp h
    refine ⟨added, by simp [hs, hadded], ?_⟩
    cases added <;> exact h
  · rename_i hs
    simp only [hs, Bool.false_eq_true, ↓reduceIte, exists_eq_left]
    split at h
    · rename_i value hv
      rw [hv]
      split at h
      · rename_i hp
        simpa only [hp, ↓reduceIte, Entries.putAny] using h
      · rename_i hp
        simpa only [hp, Bool.false_eq_true, ↓reduceIte, Entries.putAny] using h
    · rename_i hv
      rw [hv, ite_self]
      exact h

/-- The map that a run over definitions ends with. -/
structure MergesTo (data : PostData) (s : Scope) (definitions : List (String × AttributeDefinition))
    (attributes merged : List (String × Held)) : Prop where
  defined : ∀ k d, Entries.find? k definitions = some d →
    ∃ added, d.Adds data s (Entries.has k attributes) added ∧
      Entries.find? k merged = added.or (Entries.find? k attributes)
  undefined : ∀ k, Entries.find? k definitions = none →
    Entries.find? k merged = Entries.find? k attributes
  keys : Entries.keys merged = Entries.keys attributes ++
    (Entries.keys definitions).filter fun k =>
      k ∉ Entries.keys attributes ∧ (Entries.find? k merged).isSome

/-- Definitions add no explicit attributes. -/
theorem places_of_sourceEach {definitions : List (String × AttributeDefinition)}
    {P : List Nat → Prop} (ha : ∀ e ∈ attributes, ∀ place ∈ e.2.places, P place)
    (h : (sourceEach data s definitions attributes).outcome = .ok merged) :
    ∀ e ∈ merged, ∀ place ∈ e.2.places, P place := by
  induction definitions generalizing attributes with
  | nil =>
    simp only [sourceEach, Log.Noted.outcome_pure, Except.ok.injEq] at h
    exact h ▸ ha
  | cons entry rest ih =>
    obtain ⟨name, d⟩ := entry
    obtain ⟨added, hadded, h⟩ := sourceEach_cons h
    refine ih ?_ h
    intro e he
    rcases Entries.mem_putAny he with ⟨held, rfl, rfl⟩ | he
    · rw [hadded.places_eq]
      exact fun _ hplace => (List.not_mem_nil hplace).elim
    · exact ha e he

/-- The explicit attributes among those that have been sourced are of their block alone. -/
theorem places_of_sourced {block : ParsedBlock} {definitions : List (String × AttributeDefinition)}
    (h : (sourceAttributes data block definitions).outcome = .ok merged) :
    ∀ e ∈ merged, ∀ place ∈ e.2.places, place = [] := by
  apply places_of_sourceEach (P := (· = [])) _ h
  intro e he place hplace
  obtain ⟨x, -, rfl⟩ := List.mem_map.mp he
  exact List.mem_singleton.mp hplace

theorem settle_sourced_congr {block : ParsedBlock} {definitions : List (String × AttributeDefinition)}
    (h : (sourceAttributes data block definitions).outcome = .ok merged) {metadata : Metadata}
    {attrs attrs' : PlacedAttrs} (ha : attrs [] = attrs' []) :
    Entries.mapValues (Held.settle ⟨metadata, attrs⟩) merged =
      Entries.mapValues (Held.settle ⟨metadata, attrs'⟩) merged := by
  apply List.map_congr_left
  intro e he
  refine congrArg (Prod.mk e.1) (Held.settle_congr ?_ e.2 ?_)
  · intro post key
    rfl
  · intro place hplace
    rw [places_of_sourced h e he place hplace]
    exact ha

section Cons
variable {name : String} {d : AttributeDefinition} {added : Option Held}
  {rest : List (String × AttributeDefinition)}

theorem MergesTo.find?_head (hname : name ∉ Entries.keys rest)
    (hm : MergesTo data s rest (Entries.putAny name added attributes) merged) :
    Entries.find? name merged = added.or (Entries.find? name attributes) := by
  rw [hm.undefined name (Entries.find?_eq_none_iff.mpr hname), Entries.find?_putAny_self]

/-- A key that comes to the end of the map is the first of those that are added. -/
theorem MergesTo.keys_cons (hname : name ∉ Entries.keys rest)
    (hm : MergesTo data s rest (Entries.putAny name added attributes) merged) :
    Entries.keys merged = Entries.keys attributes ++
      (name :: Entries.keys rest).filter fun k =>
        k ∉ Entries.keys attributes ∧ (Entries.find? k merged).isSome := by
  have hsame : ∀ k ∈ Entries.keys rest,
      (k ∉ Entries.keys (Entries.putAny name added attributes) ↔
        k ∉ Entries.keys attributes) := by
    intro k hk
    have hne : k ≠ name := fun he => hname (he ▸ hk)
    rw [← Entries.find?_eq_none_iff, ← Entries.find?_eq_none_iff, Entries.find?_putAny_ne hne]
  have htail : (Entries.keys rest).filter (fun k =>
        k ∉ Entries.keys (Entries.putAny name added attributes) ∧
          (Entries.find? k merged).isSome) =
      (Entries.keys rest).filter fun k =>
        k ∉ Entries.keys attributes ∧ (Entries.find? k merged).isSome :=
    List.filter_congr fun k hk => by simp only [hsame k hk]
  rw [hm.keys, htail, Entries.keys_putAny, List.append_assoc, List.filter_cons]
  by_cases hn : name ∈ Entries.keys attributes
  · simp [hn]
  · have hhead : (Entries.find? name merged).isSome = added.isSome := by
      rw [hm.find?_head hname, Entries.find?_eq_none_iff.mpr hn, Option.or_none]
    by_cases ha : added.isSome <;> simp [hn, ha, hhead]

theorem MergesTo.cons (hname : name ∉ Entries.keys rest)
    (hadded : d.Adds data s (Entries.has name attributes) added)
    (hm : MergesTo data s rest (Entries.putAny name added attributes) merged) :
    MergesTo data s ((name, d) :: rest) attributes merged := by
  refine ⟨?_, ?_, hm.keys_cons hname⟩
  · intro k e hke
    by_cases hk : k = name
    · subst hk
      simp only [Entries.find?, ↓reduceIte, Option.some.injEq] at hke
      exact hke ▸ ⟨added, hadded, hm.find?_head hname⟩
    · rw [Entries.find?, if_neg (Ne.symm hk)] at hke
      obtain ⟨a, ha, hf⟩ := hm.defined k e hke
      rw [Entries.has, Entries.find?_putAny_ne hk] at ha
      rw [Entries.find?_putAny_ne hk] at hf
      exact ⟨a, ha, hf⟩
  · intro k hk
    rw [Entries.find?] at hk
    split at hk
    · simp at hk
    · rename_i hne
      rw [hm.undefined k hk, Entries.find?_putAny_ne (Ne.symm hne)]

end Cons

theorem mergesTo_of_sourceEach {definitions : List (String × AttributeDefinition)}
    (hd : (Entries.keys definitions).Nodup)
    (h : (sourceEach data s definitions attributes).outcome = .ok merged) :
    MergesTo data s definitions attributes merged := by
  induction definitions generalizing attributes with
  | nil =>
    simp only [sourceEach, Log.Noted.outcome_pure, Except.ok.injEq] at h
    subst h
    exact ⟨by simp [Entries.find?], fun _ _ => rfl, by simp [Entries.keys]⟩
  | cons entry rest ih =>
    obtain ⟨name, d⟩ := entry
    obtain ⟨hname, hrest⟩ := List.nodup_cons.mp hd
    obtain ⟨added, hadded, h⟩ := sourceEach_cons h
    exact (ih hrest h).cons hname hadded

/-- The value under a key: what a sourced definition finds, or else the explicit value, or else the
fallback of a definition without a source. -/
def mergedValue? (data : PostData) (block : ParsedBlock)
    (definitions : List (String × AttributeDefinition)) (k : String) : Option Value :=
  ((Entries.find? k definitions).bind (·.sourcedValue? data block.html)).or
    ((Entries.find? k block.attrs).or
      ((Entries.find? k definitions).bind (·.unsourcedValue?)))

section Explicit
variable {attrs : List (String × Value)}

theorem find?_explicit (k : String) :
    Entries.find? k (attrs.map fun e => (e.1, Held.explicit [] e.1)) =
      (Entries.find? k attrs).map fun _ => Held.explicit [] k := by
  induction attrs with
  | nil => rfl
  | cons e rest ih =>
    by_cases h : e.1 = k
    · simp [Entries.find?, h]
    · simpa [Entries.find?, h] using ih

theorem keys_explicit :
    Entries.keys (attrs.map fun e => (e.1, Held.explicit [] e.1)) = Entries.keys attrs := by
  simp [Entries.keys]

theorem settle_find?_explicit (metadata : Metadata) (block : ParsedBlock) (k : String) :
    (Entries.find? k (block.attrs.map fun e => (e.1, Held.explicit [] e.1))).map
      (Held.settle ⟨metadata, block.attrsAt⟩) = Entries.find? k block.attrs := by
  rw [find?_explicit]
  cases h : Entries.find? k block.attrs with
  | none => rfl
  | some v => simp [Held.settle, Shared.explicit, ParsedBlock.attrsAt, h]

end Explicit

theorem settle_find?_merged {block : ParsedBlock}
    {definitions : List (String × AttributeDefinition)}
    (hm : MergesTo data (Scope.ofFragment block.html) definitions
      (block.attrs.map fun e => (e.1, .explicit [] e.1)) merged) (k : String) :
    (Entries.find? k merged).map (Held.settle ⟨data.metadata, block.attrsAt⟩) =
      mergedValue? data block definitions k := by
  have hexplicit := settle_find?_explicit data.metadata block k
  unfold mergedValue?
  cases hk : Entries.find? k definitions with
  | none => rw [hm.undefined k hk, hexplicit]; simp
  | some d =>
    obtain ⟨added, hadded, hfind⟩ := hm.defined k d hk
    rw [hfind, Option.map_or, hexplicit, hadded.settle, Entries.has, find?_explicit,
      Option.bind_some, Option.bind_some]
    cases d.sourcedValue? data block.html <;> cases Entries.find? k block.attrs <;> simp

/-- Null is no value that a definition adds. -/
theorem find?_of_mergedValue?_null {block : ParsedBlock}
    {definitions : List (String × AttributeDefinition)} {k : String}
    (h : mergedValue? data block definitions k = some .null) :
    Entries.find? k block.attrs = some .null := by
  unfold mergedValue? at h
  rcases Option.or_eq_some_iff.mp h with hs | ⟨-, h⟩
  · obtain ⟨d, -, hd⟩ := Option.bind_eq_some_iff.mp hs
    exact absurd rfl (AttributeDefinition.sourcedValue?_ne_null hd)
  · rcases Option.or_eq_some_iff.mp h with he | ⟨-, hu⟩
    · exact he
    · obtain ⟨d, -, hd⟩ := Option.bind_eq_some_iff.mp hu
      exact absurd rfl (AttributeDefinition.unsourcedValue?_ne_null hd)

/-- Sourcing merges three kinds of values into one ordered map. A value that a sourced definition
finds comes before the explicit one, and the explicit one before a fallback without a source; the
explicit keys keep their places, and the others follow in the order of the definitions. -/
theorem sourceAttributes_merge (data : PostData) (block : ParsedBlock)
    {definitions : List (String × AttributeDefinition)}
    (hd : (Entries.keys definitions).Nodup) {merged : List (String × Held)}
    (h : (sourceAttributes data block definitions).outcome = .ok merged) :
    let values := Entries.mapValues (Held.settle ⟨data.metadata, block.attrsAt⟩) merged
    (∀ k, Entries.find? k values = mergedValue? data block definitions k) ∧
    (∀ k d, Entries.find? k definitions = some d → d.isSourced →
      ∃ found, (d.resolve data (Scope.ofFragment block.html)).outcome = .ok found ∧
        d.sourcedValue? data block.html =
          found.map (Held.settle ⟨data.metadata, block.attrsAt⟩)) ∧
    (∀ k d v, Entries.find? k definitions = some d →
      d.sourcedValue? data block.html = some v → v ≠ .null) ∧
    (∀ k d v, Entries.find? k definitions = some d → k ∉ Entries.keys block.attrs →
      d.unsourcedValue? = some v → Entries.find? k merged = some (.own v)) ∧
    Entries.keys values = Entries.keys block.attrs ++
      (Entries.keys definitions).filter (fun k =>
        k ∉ Entries.keys block.attrs ∧ (Entries.find? k values).isSome) ∧
    (∀ k ∈ Entries.keys block.attrs, k ∈ Entries.keys values) ∧
    (∀ k, Entries.find? k values = some .null → Entries.find? k block.attrs = some .null) := by
  intro values
  have hm := mergesTo_of_sourceEach hd h
  have hvalues : ∀ k, Entries.find? k values = mergedValue? data block definitions k := by
    intro k
    rw [Entries.find?_mapValues, settle_find?_merged hm]
  have hkeys : Entries.keys values = Entries.keys block.attrs ++
      (Entries.keys definitions).filter (fun k =>
        k ∉ Entries.keys block.attrs ∧ (Entries.find? k values).isSome) := by
    have hfilter := hm.keys
    rw [keys_explicit] at hfilter
    simp only [values, Entries.keys_mapValues, Entries.find?_mapValues, Option.isSome_map]
    exact hfilter
  refine ⟨hvalues, ?_, ?_, ?_, hkeys, ?_, ?_⟩
  · intro k d hk hs
    obtain ⟨added, hadded, -⟩ := hm.defined k d hk
    rw [AttributeDefinition.Adds, if_pos hs] at hadded
    exact ⟨added, hadded, AttributeDefinition.sourcedValue?_eq_map hs hadded⟩
  · intro k d v _ hv
    exact AttributeDefinition.sourcedValue?_ne_null hv
  · intro k d v hk hfree hv
    obtain ⟨added, hadded, hfind⟩ := hm.defined k d hk
    rw [← keys_explicit, ← Entries.find?_eq_none_iff] at hfree
    rw [hfind, hfree, Option.or_none]
    exact hadded.eq_own (by rw [Entries.has, hfree]; rfl) hv
  · intro k hk
    rw [hkeys]
    exact List.mem_append_left _ hk
  · intro k hk
    rw [hvalues] at hk
    exact find?_of_mergedValue?_null hk

end SourcingPlan

namespace AttributeDefinition

/-- A definition whose value is the text of what a selector finds. -/
def ofText (selector : String) : AttributeDefinition :=
  mk ⟨some .text, some selector, none, none, none, .null, []⟩ none

/-- A definition whose value is in the metadata of the post. -/
def ofMeta (key : String) : AttributeDefinition :=
  mk ⟨some .metadata, none, none, none, some key, .null, []⟩ none

/-- A definition whose value has a record for each match of a selector. -/
def ofQuery (selector : String) (items : List (String × AttributeDefinition)) :
    AttributeDefinition :=
  mk ⟨some .query, some selector, none, none, none, .null, []⟩ (some items)

/-- A definition without a source. -/
def fallingBack (value : Value) : AttributeDefinition :=
  mk ⟨none, none, none, none, none, value, []⟩ none

end AttributeDefinition

namespace SourcingPlan

/-- A notice with an old text, a null anchor and a null note. -/
def notice : ParsedBlock :=
  .mk (some "core/paragraph") [("anchor", .null), ("content", .str "old"), ("note", .null)]
    "<p>News</p>" []

def noticeDefinitions : List (String × AttributeDefinition) :=
  [("level", .fallingBack (.int 2)), ("content", .ofText "p"), ("note", .ofMeta "note"),
    ("anchor", .fallingBack (.str "top"))]

theorem notice_merge :
    (Entries.keys noticeDefinitions).Nodup ∧
    ∃ merged, (sourceAttributes ⟨.empty, none⟩ notice noticeDefinitions).outcome = .ok merged ∧
      Entries.keys merged = ["anchor", "content", "note", "level"] ∧
      ∀ k, Entries.find? k (Entries.mapValues (Held.settle ⟨.empty, notice.attrsAt⟩) merged) =
        mergedValue? ⟨.empty, none⟩ notice noticeDefinitions k := by
  have hd : (Entries.keys noticeDefinitions).Nodup := by decide
  have hkeys : (sourceAttributes ⟨.empty, none⟩ notice noticeDefinitions).outcome.toOption.map
      Entries.keys = some ["anchor", "content", "note", "level"] := by decide +kernel
  cases h : (sourceAttributes ⟨.empty, none⟩ notice noticeDefinitions).outcome with
  | error e => simp [h, Except.toOption] at hkeys
  | ok merged =>
    obtain ⟨hvalues, -⟩ := sourceAttributes_merge ⟨.empty, none⟩ notice hd h
    rw [h] at hkeys
    exact ⟨hd, merged, rfl, Option.some.inj hkeys, hvalues⟩

end SourcingPlan
end EditorBlocks
