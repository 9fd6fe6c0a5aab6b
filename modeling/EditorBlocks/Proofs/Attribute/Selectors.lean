import EditorBlocks.Proofs.Attribute.Lookups
/-! Which selectors are evaluated when attributes are resolved, and that nothing but a selector
that cannot be read makes resolution fail for a post whose number can be written. -/

namespace EditorBlocks

namespace Log.Noted
variable {ε α β : Type} {x : Noted ε α} {f : α → Noted ε β}

def Fails (x : Noted ε α) : Prop := ∃ e, x.outcome = .error e

theorem not_fails_pure (a : α) : ¬Fails (pure a : Noted ε α) := by
  rintro ⟨e, he⟩
  cases he

theorem fails_bind : Fails (x >>= f) ↔ Fails x ∨ ∃ a, x.outcome = .ok a ∧ Fails (f a) := by
  unfold Fails
  rw [outcome_bind]
  cases x.outcome with
  | error e => simp [Bind.bind, Except.bind]
  | ok a => simp [Bind.bind, Except.bind]

/-- Whether the second of two steps fails may be a matter apart from what the first one gives. -/
theorem fails_bind_of_forall {P : Prop} (hf : ∀ a, Fails (f a) ↔ P) :
    Fails (x >>= f) ↔ Fails x ∨ P := by
  rw [fails_bind]
  simp only [hf]
  constructor
  · rintro (h | ⟨a, -, h⟩)
    · exact .inl h
    · exact .inr h
  · rintro (h | h)
    · exact .inl h
    · cases hx : x.outcome with
      | error e => exact .inl ⟨e, hx⟩
      | ok a => exact .inr ⟨a, rfl, h⟩

theorem fails_bind_iff (hf : ∀ a, ¬Fails (f a)) : Fails (x >>= f) ↔ Fails x := by
  rw [fails_bind_of_forall fun a => iff_false_intro (hf a), or_false]

theorem fails_map (g : α → β) : Fails (g <$> x) ↔ Fails x := by
  rw [← bind_pure_comp]
  exact fails_bind_iff fun a => not_fails_pure (g a)

theorem fails_mapM (as : List α) : Fails (as.mapM f) ↔ ∃ a ∈ as, Fails (f a) := by
  induction as with
  | nil => simp [not_fails_pure]
  | cons a rest ih =>
    rw [List.mapM_cons, fails_bind_of_forall fun b => fails_bind_iff fun bs => not_fails_pure _, ih]
    simp only [List.mem_cons, exists_eq_or_imp]

end Log.Noted

/-- A text that cannot be read as a list of selectors. -/
def Unreadable (selector : String) : Prop := (SelectorList.read selector).isOk = false

instance (selector : String) : Decidable (Unreadable selector) :=
  inferInstanceAs (Decidable (_ = false))

/-- One of these texts cannot be read. -/
def AnyUnreadable (selectors : List String) : Prop := ∃ selector ∈ selectors, Unreadable selector

instance (selectors : List String) : Decidable (AnyUnreadable selectors) :=
  inferInstanceAs (Decidable (∃ selector ∈ selectors, Unreadable selector))

theorem not_anyUnreadable_nil : ¬AnyUnreadable [] := by
  rintro ⟨selector, h, -⟩
  cases h

theorem anyUnreadable_singleton {selector : String} :
    AnyUnreadable [selector] ↔ Unreadable selector := by
  simp [AnyUnreadable]

theorem anyUnreadable_append {selectors others : List String} :
    AnyUnreadable (selectors ++ others) ↔ AnyUnreadable selectors ∨ AnyUnreadable others := by
  simp only [AnyUnreadable, List.mem_append, or_and_right, exists_or]

theorem anyUnreadable_flatMap {α : Type} {f : α → List String} {as : List α} :
    AnyUnreadable (as.flatMap f) ↔ ∃ a ∈ as, AnyUnreadable (f a) := by
  simp only [AnyUnreadable, List.mem_flatMap]
  constructor
  · rintro ⟨selector, ⟨a, ha, hselector⟩, h⟩
    exact ⟨a, ha, selector, hselector, h⟩
  · rintro ⟨a, ha, selector, hselector, h⟩
    exact ⟨selector, ⟨a, ha, hselector⟩, h⟩

namespace Scope
open Log.Noted
variable {α : Type} {s : Scope} {f : Scope → Resolving α}

/-- The scope that a definition with this selector reads from, if the selector can be read. -/
def narrowed? (s : Scope) (selector : Option String) : Option Scope :=
  (s.narrowedBy selector).outcome.toOption

theorem outcome_narrowed (s : Scope) (selector : String) :
    (s.narrowed selector).outcome = (s.filter selector).mapError .selector := by
  simp only [narrowed, outcome_bind, outcome_ofExcept, outcome_note, outcome_pure]
  cases s.filter selector <;> rfl

theorem outcome_narrowed_eq_ok {selector : String} {found : Scope} :
    (s.narrowed selector).outcome = .ok found ↔ s.filter selector = .ok found := by
  rw [outcome_narrowed]
  cases s.filter selector with
  | ok other => constructor <;> (intro h; cases h; rfl)
  | error e => constructor <;> (intro h; cases h)

/-- Where there is a place to ask, every text is read. -/
theorem fails_narrowed (hs : s.places ≠ []) (selector : String) :
    Fails (s.narrowed selector) ↔ Unreadable selector := by
  have hplaces : s.places.isEmpty = false := by simp [hs]
  unfold Fails Unreadable
  rw [outcome_narrowed, filter, hplaces]
  cases SelectorList.read selector with
  | ok list =>
    refine iff_of_false ?_ Bool.false_ne_true.symm
    rintro ⟨e, he⟩
    cases he
  | error e => exact iff_of_true ⟨.selector e, rfl⟩ rfl

theorem fails_narrowedBy (hs : s.places ≠ []) (selector : Option String) :
    Fails (s.narrowedBy selector) ↔ AnyUnreadable selector.toList := by
  cases selector with
  | none =>
    exact iff_of_false (not_fails_pure s) not_anyUnreadable_nil
  | some selector =>
    rw [Option.toList_some, anyUnreadable_singleton]
    exact fails_narrowed hs selector

theorem fails_narrowedBy_bind (hs : s.places ≠ []) (selector : Option String) :
    Fails (s.narrowedBy selector >>= f) ↔
      AnyUnreadable selector.toList ∨ ∃ found ∈ (s.narrowed? selector).toList, Fails (f found) := by
  rw [fails_bind, fails_narrowedBy hs, narrowed?]
  cases (s.narrowedBy selector).outcome <;> simp [Except.toOption]

theorem places_of_mem_each {m : Scope} (h : m ∈ s.each) : m.places ≠ [] := by
  obtain ⟨l, -, rfl⟩ := List.mem_map.mp h
  exact List.cons_ne_nil l []

end Scope

namespace AttributeDefinition
open Log.Noted

mutual
/-- The selectors that are evaluated for a definition in a scope: its own; for HTML, with a match,
that of the lines; for a query, those of the members on each match. -/
def evaluated (s : Scope) : AttributeDefinition → List String
  | mk rule query =>
    match rule.source with
    | none | some .raw | some .metadata => []
    | some source =>
      let matched := (s.narrowed? rule.selector).toList
      rule.selector.toList
        ++ (if source = .html then
            matched.flatMap fun found => if found.count = 0 then [] else rule.multiline.toList
          else [])
        ++ (if source = .query then
            matched.flatMap fun found => found.each.flatMap fun m => evaluatedInQuery m query
          else [])

def evaluatedInQuery (m : Scope) : Option (List (String × AttributeDefinition)) → List String
  | none => []
  | some items => evaluatedInItems m items

def evaluatedInItems (m : Scope) : List (String × AttributeDefinition) → List String
  | [] => []
  | item :: rest => evaluatedInItem m item ++ evaluatedInItems m rest

def evaluatedInItem (m : Scope) : String × AttributeDefinition → List String
  | (_, definition) => evaluated m definition
end

section Fails
variable {data : PostData} {s : Scope}

/-- The lines of the first match are searched for when there is one. -/
theorem fails_html {rule : AttributeRule} {found : Scope} :
    Fails (if found.count = 0 then (pure none : Resolving (Option Held))
      else match rule.multiline with
        | none => pure (AttributeRule.ownText found.innerHtml?)
        | some selector => some <$> AttributeRule.linesHtml found selector) ↔
      AnyUnreadable (if found.count = 0 then [] else rule.multiline.toList) := by
  split
  · exact iff_of_false (not_fails_pure _) not_anyUnreadable_nil
  · rename_i hcount
    have hplaces : found.places ≠ [] := by
      intro h
      exact hcount (by rw [Scope.count, h, List.length_nil])
    cases rule.multiline with
    | none => exact iff_of_false (not_fails_pure _) not_anyUnreadable_nil
    | some selector =>
      rw [fails_map, AttributeRule.linesHtml, fails_bind_iff fun lines => not_fails_pure _,
        Scope.fails_narrowed hplaces, Option.toList_some, anyUnreadable_singleton]

theorem not_fails_metadataValue (hpost : data.postId.all Text.fitsDigitLimit)
    (key : Option String) : ¬Fails (AttributeRule.metadataValue data key) := by
  obtain ⟨metadata, postId⟩ := data
  rintro ⟨e, he⟩
  cases postId with
  | none => cases he
  | some post =>
    cases key with
    | none => cases he
    | some key =>
      rw [AttributeRule.outcome_metadataValue, Metadata.asked_of_fits hpost] at he
      cases he

theorem fails_find {rule : AttributeRule} {query : Option (List (String × AttributeDefinition))}
    (hpost : data.postId.all Text.fitsDigitLimit) (hs : s.places ≠ [])
    (hq : rule.source ≠ some .query) :
    Fails (rule.find data s) ↔ AnyUnreadable ((mk rule query).evaluated s) := by
  have hplain : ∀ {α : Type} (f : Scope → α), Fails (s.narrowedBy rule.selector >>= fun found =>
      pure (f found)) ↔ AnyUnreadable (rule.selector.toList ++ [] ++ []) := by
    intro α f
    rw [fails_bind_iff fun found => not_fails_pure _, Scope.fails_narrowedBy hs, List.append_nil,
      List.append_nil]
  rw [AttributeRule.find, evaluated]
  cases hsource : rule.source with
  | none => exact iff_of_false (not_fails_pure _) not_anyUnreadable_nil
  | some source =>
    cases source with
    | query => exact absurd hsource hq
    | raw => exact iff_of_false (not_fails_pure _) not_anyUnreadable_nil
    | metadata => exact iff_of_false (not_fails_metadataValue hpost _) not_anyUnreadable_nil
    | html =>
      simp only [Scope.fails_narrowedBy_bind hs, ↓reduceIte, reduceCtorEq, List.append_nil,
        anyUnreadable_append, anyUnreadable_flatMap]
      exact or_congr_right (exists_congr fun found => and_congr_right fun _ => fails_html)
    | _ => exact hplain _

mutual
/-- Resolution fails when, and only when, a selector that is evaluated cannot be read. -/
theorem fails_resolve (hpost : data.postId.all Text.fitsDigitLimit) :
    ∀ (d : AttributeDefinition) {s : Scope}, s.places ≠ [] →
    (Fails (d.resolve data s) ↔ AnyUnreadable (d.evaluated s))
  | mk rule query, s, hs => by
    rw [resolve]
    split
    · rename_i hq
      rw [evaluated, hq, Scope.fails_narrowedBy_bind hs]
      simp only [↓reduceIte, reduceCtorEq, List.append_nil, anyUnreadable_append,
        anyUnreadable_flatMap]
      refine or_congr_right (exists_congr fun found => and_congr_right fun _ => ?_)
      have hlast : ∀ records : List (List (String × Held)),
          ¬Fails (do
            let found ← pure (some (Held.list (records.map .record)))
            pure (found.or rule.fallbackValue) : Resolving (Option Held)) :=
        fun records => (not_congr (fails_bind_iff fun _ => not_fails_pure _)).mpr (not_fails_pure _)
      rw [fails_bind_iff hlast, fails_mapM]
      exact exists_congr fun m => and_congr_right fun hm =>
        fails_resolveQuery hpost query (Scope.places_of_mem_each hm)
    · rename_i hq
      rw [fails_bind_iff fun found => not_fails_pure _]
      exact fails_find hpost hs hq

theorem fails_resolveQuery (hpost : data.postId.all Text.fitsDigitLimit) :
    ∀ (query : Option (List (String × AttributeDefinition))) {m : Scope}, m.places ≠ [] →
    (Fails (resolveQuery data m query) ↔ AnyUnreadable (evaluatedInQuery m query))
  | none, _, _ => iff_of_false (not_fails_pure _) not_anyUnreadable_nil
  | some items, _, hm => fails_resolveItems hpost items hm

theorem fails_resolveItems (hpost : data.postId.all Text.fitsDigitLimit) :
    ∀ (items : List (String × AttributeDefinition)) {m : Scope}, m.places ≠ [] →
    (Fails (resolveItems data m items) ↔ AnyUnreadable (evaluatedInItems m items))
  | [], _, _ => iff_of_false (not_fails_pure _) not_anyUnreadable_nil
  | item :: rest, m, hm => by
    rw [resolveItems, evaluatedInItems, anyUnreadable_append, ← fails_resolveItem hpost item hm,
      ← fails_resolveItems hpost rest hm]
    exact fails_bind_of_forall fun first => fails_bind_iff fun others => not_fails_pure _

theorem fails_resolveItem (hpost : data.postId.all Text.fitsDigitLimit) :
    ∀ (item : String × AttributeDefinition) {m : Scope}, m.places ≠ [] →
    (Fails (resolveItem data m item) ↔ AnyUnreadable (evaluatedInItem m item))
  | (name, d), m, hm => by
    rw [resolveItem, evaluatedInItem, fails_bind_iff fun found => not_fails_pure _]
    exact fails_resolve hpost d hm
end

end Fails

theorem evaluated_of_not_isSourced {d : AttributeDefinition} {s : Scope}
    (h : ¬d.isSourced = true) : d.evaluated s = [] := by
  obtain ⟨rule, query⟩ := d
  have hsource : rule.source = none := by simpa [isSourced, AttributeDefinition.rule] using h
  rw [evaluated, hsource]

end AttributeDefinition

namespace SourcingPlan
open Log.Noted
variable {data : PostData} {s : Scope}

theorem fails_sourceEach (hpost : data.postId.all Text.fitsDigitLimit) (hs : s.places ≠ [])
    (definitions : List (String × AttributeDefinition)) (attributes : List (String × Held)) :
    Fails (sourceEach data s definitions attributes) ↔
      AnyUnreadable (definitions.flatMap fun e => e.2.evaluated s) := by
  induction definitions generalizing attributes with
  | nil => exact iff_of_false (not_fails_pure attributes) not_anyUnreadable_nil
  | cons e rest ih =>
    obtain ⟨name, d⟩ := e
    rw [List.flatMap_cons, anyUnreadable_append, sourceEach]
    by_cases hd : d.isSourced = true
    · rw [if_pos hd, ← d.fails_resolve hpost hs]
      refine fails_bind_of_forall fun found => ?_
      cases found <;> exact ih _
    · rw [if_neg hd, AttributeDefinition.evaluated_of_not_isSourced hd,
        or_iff_right not_anyUnreadable_nil]
      split
      · split <;> exact ih _
      · exact ih _

end SourcingPlan
end EditorBlocks
