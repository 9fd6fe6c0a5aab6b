import EditorBlocks.Proofs.Attribute.Merge
import EditorBlocks.Proofs.Attribute.Referenced
import EditorBlocks.Proofs.Attribute.Selectors
import EditorBlocks.Proofs.Markup.Narrowing
import Mathlib.Data.List.Forall2
/-! What queries resolve to: a list with one record for each match, whose members are what the
definitions of the query resolve to on that match alone. -/

namespace EditorBlocks

namespace Log.Noted
variable {ε α β : Type} {f : α → Noted ε β}

/-- The items of a list that is computed come from one computation each, in order. -/
theorem outcome_mapM_forall₂ : ∀ {as : List α} {bs : List β}, (as.mapM f).outcome = .ok bs →
    List.Forall₂ (fun a b => (f a).outcome = .ok b) as bs
  | [], bs, h => by
    simp only [List.mapM_nil, outcome_pure, Except.ok.injEq] at h
    exact h ▸ .nil
  | a :: rest, bs, h => by
    rw [List.mapM_cons] at h
    obtain ⟨b, hb, h⟩ := outcome_bind_eq_ok.mp h
    obtain ⟨others, hothers, h⟩ := outcome_bind_eq_ok.mp h
    simp only [outcome_pure, Except.ok.injEq] at h
    exact h ▸ .cons hb (outcome_mapM_forall₂ hothers)

end Log.Noted

namespace AttributeDefinition
variable {data : PostData} {s m : Scope} {rule : AttributeRule}
  {query : Option (List (String × AttributeDefinition))}
  {items : List (String × AttributeDefinition)} {record : List (String × Held)} {held : Held}

/-- The record that definitions make of one match. -/
structure IsRecord (data : PostData) (items : List (String × AttributeDefinition)) (m : Scope)
    (record : List (String × Held)) : Prop where
  /-- The members are the values that are found, each under the name of its definition. -/
  mem_iff : ∀ name held, (name, held) ∈ record ↔
    ∃ d, (name, d) ∈ items ∧ (d.resolve data m).outcome = .ok (some held)
  order : (Entries.keys record).Sublist (Entries.keys items)
  not_null : ∀ e ∈ record, ∀ attrs, data.settle attrs e.2 ≠ .null
  /-- What is not a member has been resolved too, and nothing was found. -/
  resolved : ∀ e ∈ items, ∃ found, (e.2.resolve data m).outcome = .ok found

/-- The list that a query makes of a scope: one record for each match, in their order. Members that
come from queries are such lists again. -/
inductive IsTable (data : PostData) : Scope → AttributeDefinition → Held → Prop
  | mk {s matched : Scope} {rule : AttributeRule}
    {query : Option (List (String × AttributeDefinition))} {records : List (List (String × Held))}
    (source : rule.source = some .query)
    (narrowed : (s.narrowedBy rule.selector).outcome = .ok matched)
    (records_of : List.Forall₂ (IsRecord data (query.getD [])) matched.each records)
    (inner : ∀ m ∈ matched.each, ∀ e ∈ query.getD [], e.2.rule.source = some .query →
      ∀ held, (e.2.resolve data m).outcome = .ok (some held) → IsTable data m e.2 held) :
    IsTable data s (.mk rule query) (.list (records.map .record))

/-! ### Records -/

theorem IsRecord.nil : IsRecord data [] m [] where
  mem_iff := by simp
  order := .slnil
  not_null := by simp
  resolved := by simp

/-- One more definition adds a member in front, if it finds a value. -/
theorem IsRecord.cons {name : String} {d : AttributeDefinition} {found : Option Held}
    (hfound : (d.resolve data m).outcome = .ok found) (h : IsRecord data items m record) :
    IsRecord data ((name, d) :: items) m ((found.map (name, ·)).toList ++ record) where
  mem_iff name' held := by
    rw [List.mem_append, h.mem_iff, Option.mem_toList, Option.map_eq_some_iff]
    simp only [List.mem_cons, Prod.mk.injEq, or_and_right, exists_or]
    refine or_congr_left ⟨?_, ?_⟩
    · rintro ⟨held', rfl, rfl, rfl⟩
      exact ⟨d, ⟨rfl, rfl⟩, hfound⟩
    · rintro ⟨d', ⟨rfl, rfl⟩, hd⟩
      exact ⟨held, Except.ok.inj (hfound.symm.trans hd), rfl, rfl⟩
  order := by
    cases found with
    | none => exact h.order.cons name
    | some held => exact h.order.cons_cons name
  not_null e he attrs := by
    rcases List.mem_append.mp he with he | he
    · obtain ⟨held, rfl, rfl⟩ := Option.map_eq_some_iff.mp (Option.mem_toList.mp he)
      exact settle_ne_null_of_resolve rfl hfound
    · exact h.not_null e he attrs
  resolved := List.forall_mem_cons.mpr ⟨⟨found, hfound⟩, h.resolved⟩

theorem isRecord_of_resolveItems (h : (resolveItems data m items).outcome = .ok record) :
    IsRecord data items m record := by
  induction items generalizing record with
  | nil =>
    simp only [resolveItems, Log.Noted.outcome_pure, Except.ok.injEq] at h
    exact h ▸ .nil
  | cons item rest ih =>
    obtain ⟨name, d⟩ := item
    rw [resolveItems] at h
    obtain ⟨first, hfirst, h⟩ := Log.Noted.outcome_bind_eq_ok.mp h
    obtain ⟨others, hothers, h⟩ := Log.Noted.outcome_bind_eq_ok.mp h
    rw [resolveItem] at hfirst
    obtain ⟨found, hfound, hfirst⟩ := Log.Noted.outcome_bind_eq_ok.mp hfirst
    simp only [Log.Noted.outcome_pure, Except.ok.injEq] at h hfirst
    rw [← h, ← hfirst]
    exact (ih hothers).cons hfound

theorem isRecord_of_resolveQuery (h : (resolveQuery data m query).outcome = .ok record) :
    IsRecord data (query.getD []) m record := by
  cases query with
  | none =>
    simp only [resolveQuery, Log.Noted.outcome_pure, Except.ok.injEq] at h
    exact h ▸ .nil
  | some items => exact isRecord_of_resolveItems h

theorem IsRecord.eq_nil (h : IsRecord data [] m record) : record = [] :=
  List.map_eq_nil_iff.mp (List.sublist_nil.mp h.order)

/-! ### Tables -/

/-- A query that resolves has found its matches and made a record of each. -/
theorem records_of_resolve {found : Option Held} (hsource : rule.source = some .query)
    (h : ((mk rule query).resolve data s).outcome = .ok found) :
    ∃ matched records, (s.narrowedBy rule.selector).outcome = .ok matched ∧
      found = some (.list (records.map .record)) ∧
      List.Forall₂ (IsRecord data (query.getD [])) matched.each records := by
  rw [resolve, if_pos hsource] at h
  obtain ⟨matched, hmatched, h⟩ := Log.Noted.outcome_bind_eq_ok.mp h
  obtain ⟨records, hrecords, h⟩ := Log.Noted.outcome_bind_eq_ok.mp h
  simp only [pure_bind, Log.Noted.outcome_pure, Except.ok.injEq, Option.some_or] at h
  refine ⟨matched, records, hmatched, h.symm, ?_⟩
  exact (Log.Noted.outcome_mapM_forall₂ hrecords).imp fun _ _ => isRecord_of_resolveQuery

mutual
theorem isTable_of_resolve : ∀ (d : AttributeDefinition) {s : Scope} {held : Held},
    d.rule.source = some .query → (d.resolve data s).outcome = .ok (some held) →
    IsTable data s d held
  | mk rule query, s, held, hsource, h => by
    obtain ⟨matched, records, hmatched, hfound, hrecords⟩ := records_of_resolve hsource h
    rw [Option.some.inj hfound]
    exact .mk hsource hmatched hrecords fun _ _ _ he hquery held =>
      isTable_in_query query he hquery held

theorem isTable_in_query : ∀ (query : Option (List (String × AttributeDefinition)))
    {e : String × AttributeDefinition}, e ∈ query.getD [] → e.2.rule.source = some .query →
    ∀ {m : Scope} (held : Held), (e.2.resolve data m).outcome = .ok (some held) →
      IsTable data m e.2 held
  | none, _, he => absurd he List.not_mem_nil
  | some items, _, he => isTable_in_items items he

theorem isTable_in_items : ∀ (items : List (String × AttributeDefinition))
    {e : String × AttributeDefinition}, e ∈ items → e.2.rule.source = some .query →
    ∀ {m : Scope} (held : Held), (e.2.resolve data m).outcome = .ok (some held) →
      IsTable data m e.2 held
  | [], _, he => absurd he List.not_mem_nil
  | item :: rest, e, he => by
    rcases List.mem_cons.mp he with heq | he
    · rw [heq]
      exact isTable_in_item item
    · exact isTable_in_items rest he

theorem isTable_in_item : ∀ (item : String × AttributeDefinition),
    item.2.rule.source = some .query →
    ∀ {m : Scope} (held : Held), (item.2.resolve data m).outcome = .ok (some held) →
      IsTable data m item.2 held
  | (_, d), hsource, _, _, h => isTable_of_resolve d hsource h
end

/-- A query that resolves gives a list of records, one for each match of its selector, or for each
place of the scope if it has none, in their order. The members of a record are the values that the
definitions of the query find on its match, in the order of these, and none is null; what comes from
a query inside is such a list again. With no definitions the records are empty, with no match the
list is. -/
theorem resolve_query (hsource : rule.source = some .query) {found : Option Held}
    (h : ((mk rule query).resolve data s).outcome = .ok found) : ∃ matched records,
      (rule.selector = none → matched = s) ∧
      (∀ selector, rule.selector = some selector → s.filter selector = .ok matched) ∧
      found = some (.list (records.map .record)) ∧
      IsTable data s (mk rule query) (.list (records.map .record)) ∧
      records.length = matched.count ∧
      List.Forall₂ (IsRecord data (query.getD [])) matched.each records ∧
      (query.getD [] = [] → records = List.replicate matched.count []) ∧
      (matched.places = [] → records = []) ∧
      ∀ attrs, data.settle attrs (.list (records.map .record)) =
        .list ((records.map (Entries.mapValues (data.settle attrs))).map .object) := by
  obtain ⟨matched, records, hmatched, rfl, hrecords⟩ := records_of_resolve hsource h
  have hlength : records.length = matched.count := by
    rw [← hrecords.length_eq, Scope.each, List.length_map, Scope.count]
  refine ⟨matched, records, fun hnone => ?_, fun selector hselector => ?_, rfl,
    isTable_of_resolve _ hsource h, hlength, hrecords, fun hquery => ?_, fun hplaces => ?_,
    fun attrs => Held.settle_records _ records⟩
  · rw [hnone] at hmatched
    exact (Except.ok.inj hmatched).symm
  · rw [hselector] at hmatched
    exact Scope.outcome_narrowed_eq_ok.mp hmatched
  · rw [hquery] at hrecords
    have hempty : List.Forall₂ (fun record (_ : Scope) => record = [] ∧ True) records matched.each :=
      (hrecords.imp fun _ _ h => ⟨h.eq_nil, trivial⟩).flip
    exact List.eq_replicate_iff.mpr ⟨hlength, ((List.forall₂_and_left _ _).mp hempty).1⟩
  · rw [Scope.count, hplaces] at hlength
    exact List.eq_nil_of_length_eq_zero hlength

/-- The text of a match itself. -/
def ofOwnText : AttributeDefinition := mk ⟨some .text, none, none, none, none, .null, []⟩ none

/-- Cards with a title and any number of labels. -/
def cards : AttributeDefinition :=
  .ofQuery "li" [("title", .ofText "b"), ("labels", .ofQuery "i" [("name", ofOwnText)])]

/-- The names of the members of each record. -/
def memberNames : Held → List (List String)
  | .list items => items.map fun
    | .record members => Entries.keys members
    | _ => []
  | _ => []

/-- A card with a title and two labels, and one with neither. -/
def cardList : Scope := .ofFragment "<ul><li><i>x</i><b>1</b><i>y</i></li><li></li></ul>"

theorem cards_query : ∃ held, (cards.resolve ⟨.empty, none⟩ cardList).outcome = .ok (some held) ∧
    IsTable ⟨.empty, none⟩ cardList cards held ∧
    memberNames held = [["title", "labels"], ["labels"]] := by
  have hnames : (cards.resolve ⟨.empty, none⟩ cardList).outcome.toOption.map
      (Option.map memberNames) = some (some [["title", "labels"], ["labels"]]) := by
    decide +kernel
  obtain ⟨found, hfound, hnames⟩ := Option.map_eq_some_iff.mp hnames
  have hresolve : (cards.resolve ⟨.empty, none⟩ cardList).outcome = .ok found :=
    Scope.eq_ok_of_toOption hfound
  obtain ⟨matched, records, -, -, rfl, htable, -⟩ := resolve_query rfl hresolve
  exact ⟨_, hresolve, htable, Option.some.inj hnames⟩

end AttributeDefinition
end EditorBlocks
