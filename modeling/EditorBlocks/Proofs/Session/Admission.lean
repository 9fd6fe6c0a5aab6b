import EditorBlocks.Proofs.Session.Runs
import EditorBlocks.Proofs.Sourcing.Echo
import EditorBlocks.Proofs.Sourcing.Pruning
/-! What a parse tells when its hooks only decide: which blocks are left, in which order, and what
the attributes of each depend on. -/

namespace EditorBlocks

/-- The lineages that are left: they neither begin with blank free text nor meet a block that is
not admitted. -/
def ParsedBlock.survivors (admits : ParsedBlock → Bool) (tokens : List ParsedBlock) :
    List (List ParsedBlock) :=
  (lineagesOfList tokens).filter fun way =>
    way.head?.all (fun b => !b.isWhitespace) && way.all admits

/-- The blocks that are left, each by itself. -/
def ParsedBlock.survivingBlocks (admits : ParsedBlock → Bool) (tokens : List ParsedBlock) :
    List ParsedBlock :=
  (survivors admits tokens).filterMap List.getLast?

/-- The attributes of the block at a place in document order. -/
def Block.attributesAt {α : Type} (blocks : List (Block α)) (n : Nat) :
    Option (List (String × α)) :=
  ((lineagesOfList blocks)[n]?.bind List.getLast?).bind attributes

namespace Parser

/-- The lineages that are left are those of admitted blocks that begin with a block to source. -/
theorem survivors_eq (admits : ParsedBlock → Bool) (tokens : List ParsedBlock) :
    ParsedBlock.survivors admits tokens =
      (ParsedBlock.lineagesOfList (topBlocks tokens)).filter (·.all admits) := by
  rw [topBlocks, ParsedBlock.lineagesOfList_filter, List.filter_filter, ParsedBlock.survivors]
  apply List.filter_congr
  intro way _
  exact Bool.and_comm _ _

theorem survivingBlocks_eq (admits : ParsedBlock → Bool) (tokens : List ParsedBlock) :
    ParsedBlock.survivingBlocks admits tokens =
      ParsedBlock.enteredOfList admits (topBlocks tokens) := by
  rw [ParsedBlock.survivingBlocks, survivors_eq, ParsedBlock.ends_lineagesOfList]

/-- A parse with a result, of known tokens, whose hooks only decide. -/
structure PlainParse (p : Parser) (r : Request) (j : Journal)
    (answers : List Answer) (tokens : List ParsedBlock)
    (result : ParseResult) : Prop where
  hooks : (p.plan r).OnlyDecides answers
  tokenized : p.tokenize r.content = .ok tokens
  parsed : (p.parse r j).1 = .ok result

section Plain
variable {p : Parser} {r : Request} {j : Journal} {answers : List Answer}
  {tokens : List ParsedBlock} {result : ParseResult}

/-- The blocks of a result are the admitted ones, each completed by itself. -/
theorem PlainParse.blocks (h : p.PlainParse r j answers tokens result) :
    result.blocks = ParsedBlock.completedList ((p.plan r).ownAttributes j.metadata)
      (p.plan r).ownDebug (ParsedBlock.prunedList (admits r.filter answers) (topBlocks tokens)) := by
  obtain ⟨found, parsed, sourced, i, hfound, hs, rfl, -⟩ := sourceAll_of_parse h.parsed
  have hsame : found = tokens := Except.ok.inj (hfound.symm.trans h.tokenized)
  rw [hsame] at hs
  have hkept : ∀ q ∈ (p.plan r).hooks.processors, q.KeepsExplicit := by
    rw [h.hooks.processors]
    exact fun _ hq => (List.not_mem_nil hq).elim
  have hparsed := SourcingPlan.eqAll_of_echoes hkept _ (SourcingPlan.echoes_of_sourceAll _ hs)
  obtain ⟨hi, hsettled⟩ :=
    SourcingPlan.sourceAll_plain h.hooks _ (ParsedBlock.areOf_attrsAmong (topBlocks tokens)) hs
  change sourced.map (Draft.settle ⟨i.metadata, ParsedBlock.attrsAmong parsed⟩) = _
  rw [hparsed, hi, hsettled]
  change ParsedBlock.completedList ((p.plan r).ownAttributes (p.begun j).metadata) _ _ = _
  rw [begun_metadata]
  rfl

/-- The blocks of a result, each with the blocks on the way to it, are those that are left. -/
theorem PlainParse.labels (h : p.PlainParse r j answers tokens result) :
    (Block.lineagesOfList result.blocks).map (List.map Block.label) =
      (ParsedBlock.survivors (admits r.filter answers) tokens).map
        (List.map (ParsedBlock.completedLabel ((p.plan r).ownAttributes j.metadata))) := by
  rw [h.blocks, ParsedBlock.labels_prunedList, survivors_eq]

/-- What is told of one block that is left. -/
theorem PlainParse.attributesAt (h : p.PlainParse r j answers tokens result) {n : Nat}
    {way : List ParsedBlock} {b : ParsedBlock}
    (hway : (ParsedBlock.survivors (admits r.filter answers) tokens)[n]? = some way)
    (hb : way.getLast? = some b) :
    Block.attributesAt result.blocks n =
      some ((p.plan r).ownAttributes j.metadata (b.withInner [])) := by
  have hlabel := congrArg (·[n]?) h.labels
  simp only [List.getElem?_map, hway, Option.map_some] at hlabel
  cases hw : (Block.lineagesOfList result.blocks)[n]? with
  | none => simp [hw] at hlabel
  | some found =>
    rw [hw, Option.map_some, Option.some.injEq] at hlabel
    have hlast := congrArg List.getLast? hlabel
    rw [List.getLast?_map, List.getLast?_map, hb] at hlast
    cases hf : found.getLast? with
    | none => simp [hf] at hlast
    | some c =>
      rw [hf, Option.map_some, Option.map_some, Option.some.injEq] at hlast
      rw [Block.attributesAt, hw, Option.bind_some, hf, Option.bind_some]
      exact congrArg Prod.snd hlast

/-- With hooks that only decide, the blocks of a result are the tokenized ones of which neither
they nor any block around them has been turned down, at the top without blank free text, in their
order and nesting and under their names. Two blocks of two parses that agree on their explicit
attributes, their HTML and their definitions get the same attributes, whatever else differs. -/
theorem parse_forest (h : p.PlainParse r j answers tokens result) :
    result.blocks = ParsedBlock.completedList ((p.plan r).ownAttributes j.metadata)
        (p.plan r).ownDebug
        (ParsedBlock.prunedList (admits r.filter answers) (topBlocks tokens)) ∧
      (Block.lineagesOfList result.blocks).map (List.map Block.label) =
        (ParsedBlock.survivors (admits r.filter answers) tokens).map
          (List.map (ParsedBlock.completedLabel ((p.plan r).ownAttributes j.metadata))) ∧
      ∀ {p' : Parser} {r' : Request} {j' : Journal} {answers' : List Answer}
        {tokens' : List ParsedBlock} {result' : ParseResult},
        p'.PlainParse r' j' answers' tokens' result' → r'.postId = r.postId →
        j'.metadata = j.metadata → ∀ {n n' : Nat} {way way' : List ParsedBlock} {b b' : ParsedBlock},
        (ParsedBlock.survivors (admits r.filter answers) tokens)[n]? = some way →
        (ParsedBlock.survivors (admits r'.filter answers') tokens')[n']? = some way' →
        way.getLast? = some b → way'.getLast? = some b' → b'.attrs = b.attrs → b'.html = b.html →
        (p'.plan r').definitionsOf b'.name = (p.plan r).definitionsOf b.name →
        ∃ attributes, Block.attributesAt result.blocks n = some attributes ∧
          Block.attributesAt result'.blocks n' = some attributes := by
  refine ⟨h.blocks, h.labels, ?_⟩
  intro p' r' j' answers' tokens' result' h' hpost hmetadata n n' way way' b b' hway hway' hb hb'
    hattrs hhtml hdefinitions
  refine ⟨_, h.attributesAt hway hb, ?_⟩
  rw [h'.attributesAt hway' hb', hmetadata, SourcingPlan.ownAttributes_withInner,
    SourcingPlan.ownAttributes_withInner]
  change some (SourcingPlan.settledAttributes ⟨_, r'.postId⟩ ((p'.plan r').definitionsOf b'.name) b') =
    some (SourcingPlan.settledAttributes ⟨_, r.postId⟩ ((p.plan r).definitionsOf b.name) b)
  rw [hpost, hdefinitions, SourcingPlan.settledAttributes_congr hattrs hhtml]

end Plain

/-- A parser that knows paragraphs, with hooks that only decide. -/
def reading (tokens : List ParsedBlock) (answers : List Answer) : Parser where
  registry := .ofTypes [⟨"core/paragraph", [("content", .ofText "p")]⟩]
  tokenize := fixed tokens
  hooks := ⟨answers.map Predicate.ofAnswer, []⟩
  recorder := .silent
  settings := ⟨false, defaultMarker⟩

def newsParagraph : ParsedBlock := .mk (some "core/paragraph") [] "<p>News</p>" []

/-- A page with blank free text at the top and in a group, and with blocks to turn down at both
levels. -/
def page : List ParsedBlock :=
  [.mk none [] "\n" [],
    .mk (some "core/group") [] "" [.mk none [] "\n" [], newsParagraph,
      .mk (some "core/spacer") [] "" [newsParagraph]],
    .mk (some "core/paragraph") [] "<p>Draft</p>" []]

def noDrafts : Answer := fun included _ b => .bool (included && b.html != "<p>Draft</p>")

def pageRequest : Request := ⟨"<!-- wp:group -->", some 7, ⟨none, some ["core/spacer"]⟩⟩

theorem page_forest :
    ∃ result result',
      (reading page [noDrafts]).PlainParse pageRequest (.start .empty) [noDrafts] page result ∧
      (reading [newsParagraph] []).PlainParse { pageRequest with filter := .none } (.start .empty) []
        [newsParagraph] result' ∧
      (Block.lineagesOfList result.blocks).length = 3 ∧
      ∃ attributes, Block.attributesAt result.blocks 2 = some attributes ∧
        Block.attributesAt result'.blocks 0 = some attributes := by
  have hparsed : ((reading page [noDrafts]).parse pageRequest (.start .empty)).1.isOk = true := by
    decide +kernel
  have hparsed' : ((reading [newsParagraph] []).parse { pageRequest with filter := .none }
      (.start .empty)).1.isOk = true := by
    decide +kernel
  obtain ⟨result, hresult⟩ := exists_result hparsed
  obtain ⟨result', hresult'⟩ := exists_result hparsed'
  have h : (reading page [noDrafts]).PlainParse pageRequest (.start .empty) [noDrafts] page
      result := ⟨⟨rfl, rfl⟩, rfl, hresult⟩
  have h' : (reading [newsParagraph] []).PlainParse { pageRequest with filter := .none }
      (.start .empty) [] [newsParagraph] result' := ⟨⟨rfl, rfl⟩, rfl, hresult'⟩
  obtain ⟨-, hlabels, hsame⟩ := parse_forest h
  have hlength := congrArg List.length hlabels
  rw [List.length_map, List.length_map] at hlength
  exact ⟨result, result', h, h', hlength, hsame h' rfl rfl rfl rfl rfl rfl rfl rfl rfl⟩

end Parser
end EditorBlocks
