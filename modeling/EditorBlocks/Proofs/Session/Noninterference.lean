import EditorBlocks.Proofs.Attribute.Referenced
import EditorBlocks.Proofs.Session.Warnings
import EditorBlocks.Proofs.Sourcing.Direct
import Mathlib.Algebra.Group.Int.Defs
/-! What a parse may depend on: of the post and the metadata only the values under the keys that
definitions name, and the number of the post where a message tells it. -/

namespace EditorBlocks

/-- Outcomes that are the same, but for the post that a message is about. -/
inductive SameButPost (post post' : Option Int) : ParseOutcome → ParseOutcome → Prop
  | same (outcome : ParseOutcome) : SameButPost post post' outcome outcome
  | about (kind : FailureKind) (text : String) (cause : Option Fault) :
    SameButPost post post'
      (.error (.failure
        ⟨kind, "Error parsing post ID " ++ toString (post.getD 0) ++ ": " ++ text, cause⟩))
      (.error (.failure
        ⟨kind, "Error parsing post ID " ++ toString (post'.getD 0) ++ ": " ++ text, cause⟩))

theorem SameButPost.eq {post : Option Int} {outcome outcome' : ParseOutcome}
    (h : SameButPost post post outcome outcome') : outcome = outcome' := by
  cases h <;> rfl

namespace Parser
variable {p : Parser} {r : Request} {i j : Journal} {post post' : Option Int}

/-- The result of a request over metadata, without the journal. -/
def directly (p : Parser) (r : Request) (metadata : Metadata) : Except Fault ParseResult := do
  let tokens ← p.tokenize r.content
  let blocks ← ((p.plan r).findings metadata).completeAll (topBlocks tokens)
  return {
    blocks := blocks
    warnings := ((p.missing r tokens).map missingBlockWarning).eraseDups
    debug := if p.settings.debug then some (debugData (topBlocks tokens) r.content) else none }

/-- The outcome of sourcing without processors is told directly: the journal adds only warnings,
which depend on the blocks alone. -/
theorem ends_directly (hq : p.hooks.processors = []) :
    ((p.parseBlocks r).ends (p.begun j)).1 = p.directly r j.metadata := by
  rw [ends_parseBlocks, directly]
  cases ht : p.tokenize r.content with
  | error e => rfl
  | ok tokens =>
    have hmetadata : (tokenized r tokens (p.begun j)).metadata = j.metadata := begun_metadata
    have hdirect := (p.plan r).sourceAll_direct hq (topBlocks tokens)
      (ParsedBlock.areOf_attrsAmong (topBlocks tokens)) (tokenized r tokens (p.begun j))
    rw [hmetadata] at hdirect
    change _ = (((p.plan r).findings j.metadata).completeAll (topBlocks tokens) >>= _)
    generalize ((p.plan r).findings j.metadata).completeAll (topBlocks tokens) = found at hdirect
    have hprocessors : (p.plan r).hooks.processors = [] := hq
    have hspoilt := SourcingPlan.spoilt_sourceAll hprocessors (topBlocks tokens) 0
      (tokenized r tokens (p.begun j))
    change _ = none at hspoilt
    simp only
    cases hends : ((p.plan r).sourceAll 0 (topBlocks tokens)).ends
        (tokenized r tokens (p.begun j)) with
    | mk outcome i =>
      rw [hends] at hdirect hspoilt
      cases hdirect with
      | fault => rfl
      | told hi hb =>
        have hwarnings := warnings_of_told (told_sourced hends)
        have hecho : p.lostEcho i.spoilt = none := by
          rw [hspoilt, lostEcho, ite_self]
        simp only [hecho]
        change Except.ok (p.told r i (topBlocks tokens) _) = Except.ok _
        rw [told, hi.trans hmetadata, hb, hwarnings]

/-- All definitions that a block is sourced by are in the registry. -/
theorem metaKeys_subset_of_mem {name : Option String} {e : String × AttributeDefinition}
    (h : e ∈ (p.plan r).definitionsOf name) : e.2.metaKeys ⊆ p.registry.metaKeys := by
  unfold SourcingPlan.definitionsOf at h
  cases htype : (p.plan r).typeOf name with
  | none =>
    rw [htype] at h
    cases h
  | some type =>
    rw [htype] at h
    obtain ⟨key, -, hfind⟩ := Option.bind_eq_some_iff.mp htype
    exact fun _ hkey => Registry.metaKeys_subset hfind
      (AttributeDefinition.metaKeys_subset_itemsMetaKeys h hkey)

theorem foundAttributes_agree {m m' : Metadata} {content : String} {filter : BlockFilter}
    (h : PostData.AgreeOn ⟨m, post⟩ ⟨m', post'⟩ p.registry.metaKeys) :
    (p.plan ⟨content, post, filter⟩).foundAttributes m =
      (p.plan ⟨content, post', filter⟩).foundAttributes m' := by
  funext block
  have hdefinitions : ∀ e ∈ (p.plan ⟨content, post, filter⟩).definitionsOf block.name,
      PostData.AgreeOn ⟨m, post⟩ ⟨m', post'⟩ e.2.metaKeys :=
    fun e he => h.subset (metaKeys_subset_of_mem he)
  have hexplicit : ∀ data : PostData, Entries.mapValues (data.settle block.attrsAt)
      (block.attrs.map fun e => (e.1, .explicit [] e.1)) =
        block.attrs.map fun e => (e.1, (Entries.find? e.1 block.attrs).getD .null) := by
    intro data
    rw [Entries.mapValues, List.map_map]
    rfl
  have hsourced := SourcingPlan.sourceEach_agree (Scope.ofFragment block.html) hdefinitions
    ((hexplicit _).trans (hexplicit _).symm)
  exact hsourced

/-- What comes of a request directly is the same over data that agrees on the keys of the registry. -/
theorem directly_agree {m m' : Metadata} {content : String} {filter : BlockFilter}
    (h : PostData.AgreeOn ⟨m, post⟩ ⟨m', post'⟩ p.registry.metaKeys) :
    p.directly ⟨content, post, filter⟩ m = p.directly ⟨content, post', filter⟩ m' := by
  have hfindings : (p.plan ⟨content, post, filter⟩).findings m =
      (p.plan ⟨content, post', filter⟩).findings m' := by
    rw [SourcingPlan.findings, foundAttributes_agree h]
    rfl
  rw [directly, hfindings]
  rfl

theorem fits_getD (h : post.all Text.fitsDigitLimit) : Text.fitsDigitLimit (post.getD 0) := by
  cases post with
  | none => decide
  | some n => exact h

/-- Two posts whose numbers can be written agree on keys under which they have the same. -/
theorem agreeOn_of_fits {data data' : PostData} {keys : List String}
    (hpost : data.postId.all Text.fitsDigitLimit) (hpost' : data'.postId.all Text.fitsDigitLimit)
    (h : ∀ key ∈ keys, data.tells key = data'.tells key) : data.AgreeOn data' keys :=
  fun key hkey => ⟨h key hkey, (PostData.asked_of_fits hpost key).trans
    (PostData.asked_of_fits hpost' key).symm⟩

section Posts
variable (hpost : post.all Text.fitsDigitLimit) (hpost' : post'.all Text.fitsDigitLimit)
  {content : String} {filter : BlockFilter}
include hpost hpost'

/-- A request is refused for its filter and its content; only a message tells the post. -/
theorem refusal_sameButPost (p : Parser) (content : String) (filter : BlockFilter) :
    (p.refusal? ⟨content, post, filter⟩ = .ok none ∧
        p.refusal? ⟨content, post', filter⟩ = .ok none) ∨
      ∃ failure failure', p.refusal? ⟨content, post, filter⟩ = .ok (some failure) ∧
        p.refusal? ⟨content, post', filter⟩ = .ok (some failure') ∧
        SameButPost post post' (.error (.failure failure)) (.error (.failure failure')) := by
  unfold refusal?
  simp only [errorAt_of_fits (fits_getD hpost), errorAt_of_fits (fits_getD hpost')]
  split
  · exact .inr ⟨_, _, rfl, rfl, .same _⟩
  · split
    · exact .inr ⟨_, _, rfl, rfl, .about _ _ _⟩
    · exact .inl ⟨rfl, rfl⟩

theorem fault_sameButPost (fault : Fault) (i j : Journal) (filter : BlockFilter) :
    SameButPost post post'
      (reject ⟨content, post, filter⟩ (faultFailure post fault) (some fault) i).1
      (reject ⟨content, post', filter⟩ (faultFailure post' fault) (some fault) j).1 := by
  rw [faultFailure, faultFailure, errorAt_of_fits (fits_getD hpost),
    errorAt_of_fits (fits_getD hpost')]
  exact .about _ _ _

theorem parse_sameButPost (hq : p.hooks.processors = [])
    (h : PostData.AgreeOn ⟨i.metadata, post⟩ ⟨j.metadata, post'⟩ p.registry.metaKeys) :
    SameButPost post post' (p.parse ⟨content, post, filter⟩ i).1
      (p.parse ⟨content, post', filter⟩ j).1 := by
  have hends := ends_directly (r := ⟨content, post, filter⟩) (j := i) hq
  have hends' := ends_directly (r := ⟨content, post', filter⟩) (j := j) hq
  rw [← directly_agree h, ← hends] at hends'
  rw [parse_eq, parse_eq]
  obtain ⟨hr, hr'⟩ | ⟨failure, failure', hr, hr', hsame⟩ :=
    refusal_sameButPost hpost hpost' p content filter
  · rw [hr, hr']
    simp only
    generalize (p.parseBlocks ⟨content, post, filter⟩).ends (p.begun i) = ended at hends'
    generalize (p.parseBlocks ⟨content, post', filter⟩).ends (p.begun j) = ended' at hends'
    obtain ⟨outcome, k⟩ := ended
    obtain ⟨outcome', k'⟩ := ended'
    change outcome' = outcome at hends'
    subst hends'
    cases outcome' with
    | ok result => exact .same _
    | error fault => exact fault_sameButPost hpost hpost' fault _ _ filter
  · rw [hr, hr']
    exact hsame

end Posts

/-- Without processors, two parses of the same content have the same blocks, warnings and debug data,
or fail alike but for the post in the message, if both posts have the same under each key that a
definition of the registry names, at any depth of its queries, and their numbers can be written.
Nothing else of the metadata matters, and nothing of what the journals hold. A value that is not there
is null: for no post, for a post or a key that the metadata does not have, and for the empty metadata
of a parser that is given none. -/
theorem parse_noninterference {p : Parser} (hq : p.hooks.processors = []) :
    (∀ (content : String) (filter : BlockFilter) (post post' : Option Int) (i j : Journal),
      post.all Text.fitsDigitLimit → post'.all Text.fitsDigitLimit →
      (∀ key ∈ p.registry.metaKeys,
        PostData.tells ⟨i.metadata, post⟩ key = PostData.tells ⟨j.metadata, post'⟩ key) →
      SameButPost post post' (p.parse ⟨content, post, filter⟩ i).1
        (p.parse ⟨content, post', filter⟩ j).1) ∧
    ∀ (r : Request) (i j : Journal), r.postId.all Text.fitsDigitLimit →
      (∀ post key, r.postId = some post → key ∈ p.registry.metaKeys →
        i.metadata.tells post key = j.metadata.tells post key) →
      (p.parse r i).1 = (p.parse r j).1 := by
  refine ⟨fun content filter post post' i j hpost hpost' h =>
    parse_sameButPost hpost hpost' hq (agreeOn_of_fits hpost hpost' h), ?_⟩
  rintro ⟨content, postId, filter⟩ i j hpost h
  refine (parse_sameButPost hpost hpost hq (agreeOn_of_fits hpost hpost fun key hkey => ?_)).eq
  cases postId with
  | none => rfl
  | some post => exact h post key rfl hkey

/-- The note of the post, or a dash. -/
def noteOrDash : AttributeDefinition :=
  .mk ⟨some .metadata, none, none, none, some "note", .str "-", []⟩ none

/-- A parser for cards: each has labels, and each label the note of the post. -/
def noted : Parser where
  registry := .ofTypes [⟨"core/cards",
    [("cards", .ofQuery "li" [("labels", .ofQuery "b" [("note", noteOrDash)])])]⟩]
  tokenize := fixed [.mk (some "core/cards") [] "<ul><li><b>1</b></li><li></li></ul>"
    [.mk (some "core/spacer") [] "" []]]
  hooks := .none
  recorder := .silent
  settings := ⟨true, defaultMarker⟩

/-- Metadata where the note of one post is null, and another post has one. -/
def secrets : Metadata :=
  ⟨[(8, [("note", .str "secret")]), (7, [("title", .str "News"), ("note", .null)])]⟩

/-- A post without a note, among others that have one, and no post at all over no metadata. -/
theorem noted_noninterference : secrets.tells 8 "note" = .str "secret" ∧ ∃ result,
    (noted.parse ⟨"<!-- wp:cards -->", some 7, .none⟩ (.start secrets)).1 = .ok result ∧
    (noted.parse ⟨"<!-- wp:cards -->", none, .none⟩ (.start .empty)).1 = .ok result := by
  have hparsed : (noted.parse ⟨"<!-- wp:cards -->", some 7, .none⟩ (.start secrets)).1.isOk := by
    decide +kernel
  have hkeys : noted.registry.metaKeys = ["note"] := by decide +kernel
  have hagree : ∀ key ∈ noted.registry.metaKeys,
      PostData.tells ⟨secrets, some 7⟩ key = PostData.tells ⟨.empty, none⟩ key := by
    intro key hkey
    rw [hkeys, List.mem_singleton] at hkey
    subst hkey
    rfl
  obtain ⟨result, hresult⟩ := exists_result hparsed
  have hsame := (parse_noninterference (p := noted) rfl).1 "<!-- wp:cards -->" .none (some 7) none
    (.start secrets) (.start .empty) (by decide) rfl hagree
  rw [hresult] at hsame
  generalize (noted.parse ⟨"<!-- wp:cards -->", none, .none⟩ (.start .empty)).1 = other at hsame ⊢
  refine ⟨rfl, result, hresult, ?_⟩
  cases hsame with
  | same => rfl

/-- A post with too long a number has nothing under any key, like no post, but to ask it is a fault. -/
theorem longPost_interferes :
    (∀ key, PostData.tells ⟨.empty, some (10 ^ 4300)⟩ key = PostData.tells ⟨.empty, none⟩ key) ∧
    (noted.parse ⟨"<!-- wp:cards -->", none, .none⟩ (.start .empty)).1.isOk = true ∧
    (noted.parse ⟨"<!-- wp:cards -->", some (10 ^ 4300), .none⟩ (.start .empty)).1.isOk = false := by
  refine ⟨fun _ => rfl, ?_, ?_⟩ <;> decide +kernel

end Parser
end EditorBlocks
