import EditorBlocks.Proofs.Attribute.Lines
import EditorBlocks.Proofs.Attribute.Records
/-! When a definition falls back: its fallback is used exactly if nothing is found, and makes no
difference otherwise, however empty the value is that is found. -/

namespace EditorBlocks

/-! ### The first match -/

namespace Scope
variable {html : String} {allowed : SelectorList → Prop} {s matched : Scope}
  {selector : Option String}

/-- The first match of a selector, or the first place of the scope if there is no selector. -/
def firstMatch? (s : Scope) (selector : Option String) : Option Location :=
  (s.narrowed? selector).bind (·.first?)

theorem firstMatch?_of_narrowedBy (h : (s.narrowedBy selector).outcome = .ok matched) :
    s.firstMatch? selector = matched.first? := by
  rw [firstMatch?, narrowed?, h]
  rfl

theorem Reached.narrowedBy (hs : Reached (fun _ => True) html s)
    (h : (s.narrowedBy selector).outcome = .ok matched) : Reached (fun _ => True) html matched := by
  cases selector with
  | none => exact Except.ok.inj h ▸ hs
  | some selector =>
    have hfilter : s.filter selector = .ok matched := outcome_narrowed_eq_ok.mp h
    exact .narrowed hs hfilter fun _ _ => trivial

/-- The first place of a scope that is reached is an element. -/
theorem Reached.first_element (hs : Reached allowed html s) {first : Location}
    (h : s.first? = some first) : ∃ tag children, first.node? = some (.element tag children) ∧
      first.tag? = some tag := by
  have helement : first.isElement :=
    (Location.mem_elements.mp (hs.isIn.elements first (List.mem_of_head? h))).1
  unfold Location.isElement Location.tag? at helement
  split at helement
  · rename_i tag children _
    exact ⟨tag, children, rfl, rfl⟩
  · cases helement

theorem count_eq_zero_iff : s.count = 0 ↔ s.first? = none := by
  rw [count, first?, List.length_eq_zero_iff, List.head?_eq_none_iff]

theorem attribute?_eq_none_iff {name : String} : s.attribute? name = none ↔
    s.first? = none ∨ ∃ first, s.first? = some first ∧ first.attribute? name = none := by
  rw [attribute?]
  cases s.first? <;> simp

section Reached
variable (hs : Reached allowed html s)
include hs

theorem Reached.node_eq_none_iff : s.first?.bind (·.node?) = none ↔ s.first? = none := by
  cases hfirst : s.first? with
  | none => simp
  | some first =>
    obtain ⟨tag, children, hnode, -⟩ := hs.first_element hfirst
    simp [hnode]

theorem Reached.innerHtml?_eq_none_iff : s.innerHtml? = none ↔ s.first? = none := by
  rw [innerHtml?, Option.map_eq_none_iff, hs.node_eq_none_iff]

theorem Reached.text?_eq_none_iff : s.text? = none ↔ s.first? = none := by
  rw [text?, rawText?, Option.map_eq_none_iff, Option.map_eq_none_iff, hs.node_eq_none_iff]

theorem Reached.tagName?_eq_none_iff : s.tagName? = none ↔ s.first? = none := by
  rw [tagName?, Option.map_eq_none_iff]
  cases hfirst : s.first? with
  | none => simp
  | some first =>
    obtain ⟨tag, children, -, htag⟩ := hs.first_element hfirst
    simp [htag]

theorem Reached.outline_eq_none_iff :
    (s.first?.bind (·.node?)).bind (·.outline?) = none ↔ s.first? = none := by
  cases hfirst : s.first? with
  | none => simp
  | some first =>
    obtain ⟨tag, children, hnode, -⟩ := hs.first_element hfirst
    simp [hnode, Node.outline?]

end Reached

end Scope

/-! ### What rules find -/

namespace AttributeRule
open AttributeSource
variable {rule : AttributeRule} {data : PostData} {html : String} {s : Scope} {found : Option Held}

/-- A rule finds nothing: there is no match, or nothing to read in the first one, or no value of the
metadata. Raw HTML is read from the scope itself. Queries and contents always are something. -/
def FindsNothing (rule : AttributeRule) (data : PostData) (s : Scope) : Prop :=
  match rule.source with
  | none => True
  | some attr | some property =>
    s.firstMatch? rule.selector = none ∨ rule.attributeName = none ∨
      ∃ first name, s.firstMatch? rule.selector = some first ∧ rule.attributeName = some name ∧
        first.attribute? name = none
  | some AttributeSource.html | some richText | some text | some tag | some node =>
    s.firstMatch? rule.selector = none
  | some raw => s.places = []
  | some metadata =>
    data.postId = none ∨ rule.metaKey = none ∨
      ∃ post key, data.postId = some post ∧ rule.metaKey = some key ∧
        (Entries.find? post data.metadata.posts = none ∨ data.metadata.find? post key = none ∨
          data.metadata.find? post key = some .null)
  | some query | some children => False

theorem ownText_eq_none_iff {text : Option String} : ownText text = none ↔ text = none :=
  Option.map_eq_none_iff

theorem metadataValue_eq_none_iff {key : Option String}
    (h : (metadataValue data key).outcome = .ok found) :
    found = none ↔ data.postId = none ∨ key = none ∨
      ∃ post name, data.postId = some post ∧ key = some name ∧
        (Entries.find? post data.metadata.posts = none ∨ data.metadata.find? post name = none ∨
          data.metadata.find? post name = some .null) := by
  obtain ⟨metadata, postId⟩ := data
  cases postId with
  | none =>
    simp only [metadataValue, Log.Noted.outcome_pure, Except.ok.injEq] at h
    simp [← h]
  | some post =>
    cases key with
    | none =>
      simp only [metadataValue, Log.Noted.outcome_pure, Except.ok.injEq] at h
      simp [← h]
    | some name =>
      rw [outcome_metadataValue] at h
      cases hasked : metadata.asked post name with
      | error fault =>
        rw [hasked] at h
        cases h
      | ok _ =>
        rw [hasked] at h
        cases h
        simp [← Metadata.tells_isNull_iff]

/-- What is read of a scope that a selector may narrow is read of a scope whose first place is the
first match. -/
theorem matched_of_narrowedBy {f : Scope → Resolving (Option Held)}
    (hs : s.Reached (fun _ => True) html)
    (h : (s.narrowedBy rule.selector >>= f).outcome = .ok found) :
    ∃ matched : Scope, matched.Reached (fun _ => True) html ∧
      s.firstMatch? rule.selector = matched.first? ∧ (f matched).outcome = .ok found := by
  obtain ⟨matched, hmatched, h⟩ := Log.Noted.outcome_bind_eq_ok.mp h
  exact ⟨matched, hs.narrowedBy hmatched, Scope.firstMatch?_of_narrowedBy hmatched, h⟩

theorem attributeText_eq_none_iff (matched : Scope) :
    (if matched.count = 0 then none
      else ownText (rule.attributeName.bind matched.attribute?)) = none ↔
      matched.first? = none ∨ rule.attributeName = none ∨
        ∃ first name, matched.first? = some first ∧ rule.attributeName = some name ∧
          first.attribute? name = none := by
  rw [ite_eq_left_iff, Scope.count_eq_zero_iff, ownText_eq_none_iff, ← or_iff_not_imp_left]
  cases hname : rule.attributeName with
  | none => simp
  | some name =>
    rw [Option.bind_some, Scope.attribute?_eq_none_iff]
    simp

/-- What a rule reads is nothing exactly if there is nothing for it to read. -/
theorem find_eq_none_iff (hs : s.Reached (fun _ => True) html) (hq : rule.source ≠ some .query)
    (h : (rule.find data s).outcome = .ok found) : found = none ↔ rule.FindsNothing data s := by
  unfold find at h
  unfold FindsNothing
  cases hsource : rule.source with
  | none =>
    simp only [hsource, Log.Noted.outcome_pure, Except.ok.injEq] at h ⊢
    simp [← h]
  | some source =>
    cases source <;> simp only [hsource] at h ⊢
    case attr | property =>
      obtain ⟨matched, hmatched, hfirst, h⟩ := matched_of_narrowedBy hs h
      rw [hfirst, ← Except.ok.inj h, attributeText_eq_none_iff]
    case html =>
      obtain ⟨matched, hmatched, hfirst, h⟩ := matched_of_narrowedBy hs h
      rw [hfirst, ← Scope.count_eq_zero_iff]
      split at h
      · rename_i hcount
        exact iff_of_true (Except.ok.inj h).symm hcount
      · rename_i hcount
        refine iff_of_false ?_ hcount
        split at h
        · rw [← Except.ok.inj h, ownText_eq_none_iff, hmatched.innerHtml?_eq_none_iff]
          rwa [Scope.count_eq_zero_iff] at hcount
        · -- Lines are joined to one text, which is there even if no line is.
          rw [← bind_pure_comp] at h
          obtain ⟨lines, -, h⟩ := Log.Noted.outcome_bind_eq_ok.mp h
          simp [← Except.ok.inj h]
    case richText =>
      obtain ⟨matched, hmatched, hfirst, h⟩ := matched_of_narrowedBy hs h
      rw [hfirst, ← Except.ok.inj h, ownText_eq_none_iff, hmatched.innerHtml?_eq_none_iff]
    case text =>
      obtain ⟨matched, hmatched, hfirst, h⟩ := matched_of_narrowedBy hs h
      rw [hfirst, ← Except.ok.inj h, ownText_eq_none_iff, hmatched.text?_eq_none_iff]
    case tag =>
      obtain ⟨matched, hmatched, hfirst, h⟩ := matched_of_narrowedBy hs h
      rw [hfirst, ← Except.ok.inj h, ownText_eq_none_iff, hmatched.tagName?_eq_none_iff]
    case node =>
      obtain ⟨matched, hmatched, hfirst, h⟩ := matched_of_narrowedBy hs h
      rw [hfirst, ← Except.ok.inj h, Option.map_eq_none_iff, hmatched.outline_eq_none_iff]
    case raw =>
      rw [← Except.ok.inj h, ownText_eq_none_iff, Option.map_eq_none_iff,
        hs.innerHtml?_eq_none_iff, Scope.first?, List.head?_eq_none_iff]
    case metadata => exact metadataValue_eq_none_iff h
    case query => exact absurd hsource hq
    case children =>
      obtain ⟨matched, -, -, h⟩ := matched_of_narrowedBy hs h
      simp [← Except.ok.inj h]

end AttributeRule

/-! ### What definitions resolve to -/

namespace AttributeDefinition
open AttributeRule
variable {data : PostData} {html : String} {s : Scope} {rule : AttributeRule}
  {query : Option (List (String × AttributeDefinition))} {found : Option Held}

/-- What a definition finds before it falls back. -/
def findOwn (data : PostData) (s : Scope) : AttributeDefinition → Resolving (Option Held)
  | mk rule query =>
    if rule.source = some .query then do
      let matched ← s.narrowedBy rule.selector
      let records ← matched.each.mapM fun m => resolveQuery data m query
      pure (some (.list (records.map .record)))
    else rule.find data s

theorem resolve_eq_findOwn (d : AttributeDefinition) : d.resolve data s = (do
    let found ← d.findOwn data s
    pure (found.or d.rule.fallbackValue)) := by
  obtain ⟨rule, query⟩ := d
  by_cases hsource : rule.source = some .query
  · simp only [resolve, findOwn, hsource, ↓reduceIte, bind_assoc]
    rfl
  · simp only [resolve, findOwn, hsource, ↓reduceIte]
    rfl

/-- The definition with another fallback. -/
def withFallback (fallback : Value) : AttributeDefinition → AttributeDefinition
  | mk rule query => mk { rule with fallback } query

theorem findOwn_withFallback (fallback : Value) (d : AttributeDefinition) :
    (d.withFallback fallback).findOwn data s = d.findOwn data s := by
  cases d
  rfl

theorem findOwn_eq_none_iff {d : AttributeDefinition} (hs : s.Reached (fun _ => True) html)
    (h : (d.findOwn data s).outcome = .ok found) : found = none ↔ d.rule.FindsNothing data s := by
  obtain ⟨rule, query⟩ := d
  rw [findOwn] at h
  split at h
  · rename_i hsource
    obtain ⟨matched, -, h⟩ := Log.Noted.outcome_bind_eq_ok.mp h
    obtain ⟨records, -, h⟩ := Log.Noted.outcome_bind_eq_ok.mp h
    simp [← Except.ok.inj h, AttributeDefinition.rule, FindsNothing, hsource]
  · rename_i hsource
    exact find_eq_none_iff hs hsource h

theorem settle_fallback (rule : AttributeRule) (data : PostData) (attrs : PlacedAttrs) :
    (rule.fallbackValue.map (data.settle attrs)).getD .null = rule.fallback := by
  rw [fallbackValue]
  cases rule.fallback <;> rfl

/-- A definition that resolves falls back exactly if nothing is found. Otherwise it resolves to a
value that is not null, and to the same value with any other fallback. -/
theorem resolve_fallback {d : AttributeDefinition} (hs : s.Reached (fun _ => True) html)
    (h : (d.resolve data s).outcome = .ok found) :
    (d.rule.FindsNothing data s → found = d.rule.fallbackValue ∧
      ∀ attrs, (found.map (data.settle attrs)).getD .null = d.rule.fallback) ∧
    (¬d.rule.FindsNothing data s → ∃ held, found = some held ∧
      (∀ attrs, data.settle attrs held ≠ .null) ∧
      ∀ fallback, ((d.withFallback fallback).resolve data s).outcome = .ok (some held)) := by
  have hresolve := resolve_eq_findOwn d ▸ h
  obtain ⟨own, hown, hfound⟩ := Log.Noted.outcome_bind_eq_ok.mp hresolve
  have hnone := findOwn_eq_none_iff hs hown
  have hfound : own.or d.rule.fallbackValue = found := Except.ok.inj hfound
  refine ⟨fun hnothing => ?_, fun hsome => ?_⟩
  · rw [hnone.mpr hnothing, Option.none_or] at hfound
    exact ⟨hfound.symm, fun attrs => hfound ▸ settle_fallback d.rule data attrs⟩
  · obtain ⟨held, rfl⟩ := Option.ne_none_iff_exists'.mp (mt hnone.mp hsome)
    rw [Option.some_or] at hfound
    subst hfound
    refine ⟨held, rfl, fun attrs => settle_ne_null_of_resolve rfl h, fun fallback => ?_⟩
    rw [resolve_eq_findOwn, findOwn_withFallback, Log.Noted.outcome_bind, hown]
    rfl

/-- A link to nowhere with a blank text, and a word that is empty. -/
def emptyParts : Scope := .ofFragment "<a href=\"\"> </a><b></b>"

/-- Rules that find an empty text there: in an attribute, in a blank text, in an element without
content, and in lines of which there are none. -/
def emptyFinds : List AttributeRule := [
  ⟨some .attr, some "a", some "href", none, none, .null, []⟩,
  ⟨some .text, some "a", none, none, none, .null, []⟩,
  ⟨some .html, some "b", none, none, none, .null, []⟩,
  ⟨some .html, some "a", none, some "p", none, .null, []⟩]

/-- A post with a count of zero. -/
def zeroCount : PostData := ⟨⟨[(1, [("count", .int 0)])]⟩, some 1⟩

theorem eq_of_foundText? {held : Held} {text : String} (h : foundText? held = some text) :
    held = .own (.str text) := by
  unfold foundText? at h
  split at h <;> simp_all

/-- The count of the post. -/
def countRule : AttributeRule := ⟨some .metadata, none, none, none, some "count", .null, []⟩

/-- The target of a link, with a text for links that have none. -/
def targetRule : AttributeRule := ⟨some .attr, some "a", some "target", none, none, .str "_self", []⟩

theorem empty_finds_kept :
    ((mk targetRule none).resolve zeroCount emptyParts).outcome =
      .ok (some (.own (.str "_self"))) ∧
    (∀ fallback, (((mk countRule none).withFallback fallback).resolve zeroCount
      emptyParts).outcome = .ok (some (.stored 1 "count"))) ∧
    ∀ rule ∈ emptyFinds, ∀ fallback, (((mk rule none).withFallback fallback).resolve zeroCount
      emptyParts).outcome = .ok (some (.own (.str ""))) := by
  have hreached : emptyParts.Reached (fun _ => True) "<a href=\"\"> </a><b></b>" := .fragment
  refine ⟨?_, fun fallback => ?_, fun rule hrule fallback => ?_⟩
  · have hok : ((mk targetRule none).resolve zeroCount emptyParts).outcome.toOption.isSome := by
      decide +kernel
    obtain ⟨found, hfound⟩ := Option.isSome_iff_exists.mp hok
    have hlink : (emptyParts.firstMatch? (some "a")).any fun first =>
        (first.attribute? "target").isNone := by
      decide +kernel
    obtain ⟨first, hfirst, hnone⟩ := (Option.any_eq_true _ _).mp hlink
    have hnothing : targetRule.FindsNothing zeroCount emptyParts :=
      .inr (.inr ⟨first, "target", hfirst, rfl, Option.isNone_iff_eq_none.mp hnone⟩)
    have hresolve := Scope.eq_ok_of_toOption hfound
    obtain ⟨hfallback, -⟩ := resolve_fallback hreached hresolve
    rw [hresolve, (hfallback hnothing).1]
    rfl
  · obtain ⟨-, hsome⟩ := resolve_fallback hreached
      (show ((mk countRule none).resolve zeroCount emptyParts).outcome =
        .ok (some (.stored 1 "count")) from rfl)
    obtain ⟨held, hheld, -, hkept⟩ := hsome fun hnothing => by
      obtain h | h | ⟨post, key, hpost, hkey, h⟩ := hnothing
      · cases h
      · cases h
      · cases hpost
        cases hkey
        obtain h | h | h := h <;> cases h
    exact Option.some.inj hheld ▸ hkept fallback
  · have htexts : ∀ rule ∈ emptyFinds, rule.fallback.isNull ∧
        (((mk rule none).resolve zeroCount emptyParts).outcome.toOption.bind id).bind
          foundText? = some "" := by
      decide +kernel
    obtain ⟨hnull, htext⟩ := htexts rule hrule
    obtain ⟨held, hheld, htext⟩ := Option.bind_eq_some_iff.mp htext
    obtain ⟨found, hfound, rfl⟩ := Option.bind_eq_some_iff.mp hheld
    obtain ⟨hnothing, hsome⟩ := resolve_fallback hreached (Scope.eq_ok_of_toOption hfound)
    have hfinds : ¬rule.FindsNothing zeroCount emptyParts := fun h => by
      have hnone : rule.fallbackValue = none := if_pos hnull
      exact absurd ((hnothing h).1.trans hnone) (by simp)
    obtain ⟨held', hheld', -, hkept⟩ := hsome hfinds
    rw [hkept fallback, ← hheld', eq_of_foundText? htext]

end AttributeDefinition
end EditorBlocks
