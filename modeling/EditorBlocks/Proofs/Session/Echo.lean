import EditorBlocks.Proofs.Block.Normal
import EditorBlocks.Proofs.Session.Debug
import EditorBlocks.Proofs.Session.Related
import EditorBlocks.Proofs.Sourcing.Separation
/-! The parsed blocks among debug data: how they differ from what the tokenizer gave, and that parsing
them again gives the same result. -/

namespace EditorBlocks
namespace Parser
variable {p : Parser} {r : Request} {j : Journal} {result : ParseResult}

theorem debugData_inj {bs cs : List ParsedBlock} {content : String} :
    debugData bs content = debugData cs content ↔ bs = cs := by
  constructor
  · intro h
    simp only [debugData, List.cons.injEq, Prod.mk.injEq, Value.list.injEq, true_and, and_true] at h
    exact ParsedBlock.toValues_injective h
  · rintro rfl
    rfl

/-- A parse with debug data tells what its work has left of the tokenized blocks. -/
theorem echoes_of_parse (hdebug : p.settings.debug = true) (h : (p.parse r j).1 = .ok result) :
    ∃ tokens echoed, p.tokenize r.content = .ok tokens ∧
      List.Forall₂ (p.plan r).Echoes (topBlocks tokens) echoed ∧
      ((∀ q ∈ p.hooks.processors, q.StaysInReach) →
        List.Forall₂ (p.plan r).Spares (topBlocks tokens) echoed) ∧
      result.debug = some (debugData echoed r.content) := by
  obtain ⟨tokens, echoed, sourced, i, htokens, hsourced, rfl, -⟩ := sourceAll_of_parse h
  refine ⟨tokens, echoed, htokens, SourcingPlan.echoes_of_sourceAll _ hsourced, fun hq => ?_, ?_⟩
  · exact (SourcingPlan.spares_of_sourceAll hq _ hsourced).1
  · rw [told, if_pos hdebug]

/-- The parsed blocks among debug data are those of the tokenizer, blank free text at the top left
out, but for explicit attributes that processors change in place, of their block or of blocks inside
it: names, HTML and nesting are as they were parsed. Processors that know explicit attributes only by
what they are given change none of a block that is not admitted, nor of a block inside it. The blocks
are all as they were parsed if no processor changes an explicit attribute in place. -/
theorem parse_echo {p : Parser} {r : Request} {j : Journal} {result : ParseResult}
    (hdebug : p.settings.debug = true) (h : (p.parse r j).1 = .ok result) :
    ∃ tokens echoed, p.tokenize r.content = .ok tokens ∧
      result.debug = some (debugData echoed r.content) ∧
      List.Forall₂ (p.plan r).Echoes (topBlocks tokens) echoed ∧
      ParsedBlock.bareList echoed = ParsedBlock.bareList (topBlocks tokens) ∧
      ((∀ q ∈ p.hooks.processors, q.StaysInReach) →
        List.Forall₂ (p.plan r).Spares (topBlocks tokens) echoed) ∧
      (result.debug = some (debugData (topBlocks tokens) r.content) ↔
        echoed = topBlocks tokens) ∧
      ((∀ q ∈ p.hooks.processors, q.KeepsExplicit) → echoed = topBlocks tokens) := by
  obtain ⟨tokens, echoed, htokens, hechoes, hspares, hresult⟩ := echoes_of_parse hdebug h
  refine ⟨tokens, echoed, htokens, hresult, hechoes, ?_, hspares, ?_, ?_⟩
  · exact SourcingPlan.bareList_of_echoes _ hechoes
  · rw [hresult, Option.some.injEq, debugData_inj]
  · exact fun hq => SourcingPlan.eqAll_of_echoes hq _ hechoes

/-- A parser whose processors put a value in the place of a list, and blocks in reverse. -/
def arranging : Parser :=
  { annotating with
    hooks := ⟨[], [(ProcessorRule.assign "tags" (.str "late")).toProcessor,
      ProcessorRule.reverseInner.toProcessor]⟩ }

theorem arranging_echo : ∃ result echoed,
    ((arranging.withDebug true).parse pageRequest (.start .empty)).1 = .ok result ∧
    arranging.tokenize pageRequest.content = .ok echoed ∧
    result.debug = some (debugData echoed pageRequest.content) := by
  have hq : ∀ q ∈ arranging.hooks.processors, q.KeepsExplicit := by
    intro q h
    rcases List.mem_cons.mp h with rfl | h
    · exact ProcessorRule.toProcessor_keepsExplicit rfl
    · rw [List.mem_singleton.mp h]
      exact ProcessorRule.toProcessor_keepsExplicit rfl
  have hparsed : ((arranging.withDebug true).parse pageRequest (.start .empty)).1.isOk = true := by
    decide +kernel
  obtain ⟨result, hresult⟩ := exists_result hparsed
  obtain ⟨tokens, echoed, htokens, hdebug, -, -, -, -, hkept⟩ := parse_echo rfl hresult
  cases htokens
  refine ⟨result, _, hresult, rfl, ?_⟩
  rw [hdebug, hkept hq]
  rfl

/-- How many items the first of the parsed blocks among debug data has in its first attribute. -/
def echoedItems : ParseOutcome → Nat
  | .ok ⟨_, _, some ((_, .list (.map [_, (_, .map ((_, .list items) :: _)), _, _] :: _)) :: _)⟩ =>
    items.length
  | _ => 0

/-- What a processor adds to an explicit list is seen among the parsed blocks. -/
theorem annotating_echo : ∃ result tokens,
    ((annotating.withDebug true).parse pageRequest (.start .empty)).1 = .ok result ∧
    annotating.tokenize pageRequest.content = .ok tokens ∧
    result.debug ≠ some (debugData (topBlocks tokens) pageRequest.content) := by
  have hitems : echoedItems ((annotating.withDebug true).parse pageRequest (.start .empty)).1 = 1 := by
    decide +kernel
  have hparsed : ((annotating.withDebug true).parse pageRequest (.start .empty)).1.isOk = true := by
    decide +kernel
  obtain ⟨⟨blocks, warnings, debug⟩, hresult⟩ := exists_result hparsed
  refine ⟨_, _, hresult, rfl, ?_⟩
  rintro rfl
  rw [hresult] at hitems
  cases hitems

-- A processor of a block around adds to a list of the block inside.
example :
    let page := fun tags => [ParsedBlock.mk (some "core/group") [] ""
      [.mk (some "core/list") [("tags", .list tags)] "" []]]
    let adding : Processor := fun d _ _ _ => do
      return d.withInner (← d.inner.mapM (ProcessorRule.appendTo "tags" (.str "late")))
    let p : Parser := ⟨.ofTypes [], fixed (page []), ⟨[], [adding]⟩, .silent, ⟨true, defaultMarker⟩⟩
    let r : Request := ⟨"<!-- wp:group -->", none, .none⟩
    (p.parse r (.start .empty)).1.toOption.bind ParseResult.debug =
      some (debugData (page [.str "late"]) r.content) := by
  rfl

/-! ### Parsing the parsed blocks again -/

/-- The parser over the blocks of a list, with a recorder of its own. -/
def replaying (p : Parser) (recorder : Recorder) (blocks : List ParsedBlock) : Parser :=
  { p with tokenize := fixed blocks, recorder := recorder }

@[simp] theorem topBlocks_topBlocks (tokens : List ParsedBlock) :
    topBlocks (topBlocks tokens) = topBlocks tokens := by
  simp [topBlocks, List.filter_filter]

/-- Blank free text at the top makes no difference to what follows. -/
theorem ends_parseBlocks_replaying {recorder : Recorder} {tokens : List ParsedBlock}
    (h : p.tokenize r.content = .ok tokens) :
    ((p.replaying recorder (topBlocks tokens)).parseBlocks r).ends j = (p.parseBlocks r).ends j := by
  have htokenized : tokenized r (topBlocks tokens) j = tokenized r tokens j := by
    rw [tokenized, tokenized, topBlocks_topBlocks]
  have hreplayed : (p.replaying recorder (topBlocks tokens)).tokenize r.content =
      .ok (topBlocks tokens) := rfl
  have hplan : (p.replaying recorder (topBlocks tokens)).plan r = p.plan r := rfl
  rw [ends_parseBlocks, ends_parseBlocks, h, hreplayed]
  simp only [topBlocks_topBlocks, htokenized, hplan]
  rfl

/-- Over the blocks that have been tokenized, a parse with the same metadata has the same outcome. -/
theorem parse_replaying {i : Journal} {recorder : Recorder} {tokens : List ParsedBlock}
    (h : p.tokenize r.content = .ok tokens) (hm : i.metadata = j.metadata) :
    ((p.replaying recorder (topBlocks tokens)).parse r j).1 = (p.parse r i).1 := by
  have hbegun : (p.begun i).metadata =
      ((p.replaying recorder (topBlocks tokens)).begun j).metadata := by
    rw [begun_metadata, begun_metadata, hm]
  obtain ⟨outcome, k, l, hk, hl, -⟩ :=
    (p.respects_eq r).parseBlocks_alike (i.uses + 1) ⟨hbegun, rfl, rfl, begun_uses⟩
  refine parse_congr rfl ?_
  rw [ends_parseBlocks_replaying h, hl, hk]

end Parser

/-- Block data goes round: the blocks that are read from accepted data are written as the one normal
form of that data, which is its own normal form, is accepted and is read as the same blocks. So the parsed
blocks among the debug data of a result can be read and parsed again, with the same result. That takes
no more than that processors do not change explicit attributes in place; there may be none at all. -/
theorem blockData_roundTrip :
    (∀ data blocks, ParsedBlock.listOfData data = .ok blocks →
      ∃ items, data = .list items ∧
        (∀ normal, List.Forall₂ ParsedBlock.Normalizes items normal ↔
          normal = ParsedBlock.toValues blocks) ∧
        ParsedBlock.listOfData (.list (ParsedBlock.toValues blocks)) = .ok blocks ∧
        List.Forall₂ ParsedBlock.Normalizes (ParsedBlock.toValues blocks)
          (ParsedBlock.toValues blocks)) ∧
    ∀ (p : Parser) (r : Request) (i : Journal) (result : ParseResult),
      (∀ q ∈ p.hooks.processors, q.KeepsExplicit) → p.settings.debug = true →
      (p.parse r i).1 = .ok result →
      ∃ echo blocks, result.debug = some [("blocks_parsed", echo), ("content", .str r.content)] ∧
        ParsedBlock.listOfData echo = .ok blocks ∧
        ∀ (recorder : Recorder) (j : Journal), i.metadata = j.metadata →
          ((p.replaying recorder blocks).parse r j).1 = .ok result := by
  refine ⟨?_, ?_⟩
  · intro data blocks h
    cases data with
    | list items =>
      have hread := ParsedBlock.listOfData_toValues blocks
      exact ⟨items, rfl, fun _ => ParsedBlock.normalizes_iff_of_checkAll h, hread,
        (ParsedBlock.normalizes_iff_of_checkAll hread).mpr rfl⟩
    | _ => cases h
  · intro p r i result hq hdebug h
    obtain ⟨tokens, echoed, htokens, hechoes, -, hresult⟩ := Parser.echoes_of_parse hdebug h
    obtain rfl := SourcingPlan.eqAll_of_echoes hq _ hechoes
    refine ⟨_, _, hresult, ParsedBlock.listOfData_toValues _, ?_⟩
    intro recorder j hm
    rw [Parser.parse_replaying htokens hm, h]

/-- Data of blocks with members under either name, members with no meaning, and no explicit
attributes in each of the ways to say so. -/
def looseData : List Value :=
  [.map [(.str "name", .str "core/group"), (.str "attrs", .list []), (.str "anchor", .int 1),
    (.str "inner_blocks", .list [
      .map [(.str "blockName", .str "core/paragraph"), (.str "attrs", .null),
        (.str "innerHTML", .str "<p>News</p>")],
      .map []])]]

def looseBlocks : List ParsedBlock :=
  [.mk (some "core/group") [] "" [Parser.newsParagraph, .mk none [] "" []]]

theorem looseData_roundTrip :
    let p := (Parser.reading looseBlocks []).withDebug true
    ParsedBlock.listOfData (.list looseData) = .ok looseBlocks ∧
    List.Forall₂ ParsedBlock.Normalizes looseData (ParsedBlock.toValues looseBlocks) ∧
    ∃ result echo blocks, (p.parse Parser.pageRequest (.start .empty)).1 = .ok result ∧
      result.debug = some [("blocks_parsed", echo), ("content", .str Parser.pageRequest.content)] ∧
      ParsedBlock.listOfData echo = .ok blocks ∧
      ((p.replaying .logging blocks).parse Parser.pageRequest (.start .empty)).1 = .ok result := by
  intro p
  have hread : ParsedBlock.listOfData (.list looseData) = .ok looseBlocks := rfl
  have hparsed : (p.parse Parser.pageRequest (.start .empty)).1.isOk = true := by decide +kernel
  obtain ⟨result, hresult⟩ := Parser.exists_result hparsed
  obtain ⟨items, hitems, hnormal, -, -⟩ := blockData_roundTrip.1 _ _ hread
  cases hitems
  have hkept : ∀ q ∈ p.hooks.processors, q.KeepsExplicit := fun _ h => (List.not_mem_nil h).elim
  obtain ⟨echo, blocks, hecho, hblocks, hagain⟩ := blockData_roundTrip.2 p _ _ result hkept rfl hresult
  exact ⟨hread, (hnormal _).mpr rfl, result, echo, blocks, hresult, hecho, hblocks, hagain .logging _ rfl⟩

end EditorBlocks
