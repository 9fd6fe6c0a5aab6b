import EditorBlocks.Proofs.Attribute.Merge
import EditorBlocks.Proofs.Hook.Confined
import EditorBlocks.Proofs.Session.Related
import EditorBlocks.Session.Steps
/-! What a parse owes to the parses before it: nothing but changes of the metadata. -/

namespace EditorBlocks

/-- All processors of a parser are confined. -/
def Parser.IsConfined (p : Parser) : Prop := ∀ q ∈ p.hooks.processors, q.IsConfined

namespace Parser
variable {p : Parser} {r : Request} {i j : Journal}

/-- Confined processors make of metadata that tells the same values the same outcome. -/
theorem parse_of_tellsAlike (hc : p.IsConfined) (h : i.metadata.TellsAlike j.metadata) :
    (p.parse r i).1 = (p.parse r j).1 := by
  have hM : p.Respects r Metadata.TellsAlike :=
    ⟨id, fun h q hq sourced name block => hc q hq sourced name r.postId block h block.attrsAt⟩
  exact hM.parse_alike h

/-- A parse keeps of the metadata what its processors keep. -/
theorem parse_kept (hk : ∀ q ∈ p.hooks.processors, q.KeepsMetadata) :
    (p.parse r j).2.metadata.TellsAlike j.metadata := by
  rw [parse_eq]
  obtain fault | - | failure := p.refusal? r
  · simp only [reject_metadata, recordUse_metadata]
    exact .refl _
  · have hM : p.Respects r fun m n => m = n ∧ m.TellsAlike j.metadata := by
      refine ⟨?_, ?_⟩
      · rintro m _ ⟨rfl, -⟩
        exact .refl m
      · rintro m _ ⟨rfl, hm⟩ q hq sourced name block spoilt
        have hkept := hk q hq sourced name r.postId block ⟨⟨m, block.attrsAt⟩, spoilt⟩
        exact ⟨_, _, _, _, _, rfl, rfl, rfl, hkept.trans hm⟩
    have hbegun : (p.begun j).metadata.TellsAlike j.metadata := by
      rw [begun_metadata]
      exact .refl _
    obtain ⟨outcome, i, -, hi, -, ⟨-, hkept⟩, -⟩ :=
      hM.parseBlocks_alike (j.uses + 1) ⟨⟨rfl, hbegun⟩, rfl, rfl, begun_uses⟩
    simp only [hi]
    cases outcome with
    | ok result => exact hkept
    | error fault =>
      simp only [reject_metadata, noteFault_metadata]
      exact hkept
  · simp only [reject_metadata, recordUse_metadata]
    exact .refl _

theorem rebuilt_cons (step : SessionStep) (rest : List SessionStep) :
    p.rebuilt (step :: rest) = { p with hooks := p.hooks.registering step }.rebuilt rest := rfl

theorem processors_registering (h : Hooks) (step : SessionStep) :
    h.processors ⊆ (h.registering step).processors := by
  cases step with
  | addProcessor q => exact List.subset_append_left _ _
  | _ => exact List.Subset.refl _

/-- Processors that have been registered stay registered. -/
theorem processors_rebuilt (steps : List SessionStep) :
    p.hooks.processors ⊆ (p.rebuilt steps).hooks.processors := by
  induction steps generalizing p with
  | nil => exact List.Subset.refl _
  | cons step rest ih =>
    rw [rebuilt_cons]
    have hstep := processors_registering p.hooks step
    exact List.Subset.trans hstep (ih (p := { p with hooks := p.hooks.registering step }))

end Parser

namespace Session
variable {s : Session} {p : Parser} {m : Metadata}

theorem parser_step (step : SessionStep) :
    (s.step step).parser = { s.parser with hooks := s.parser.hooks.registering step } := by
  cases step <;> rfl

theorem after_cons (step : SessionStep) (rest : List SessionStep) :
    s.after (step :: rest) = (s.step step).after rest := rfl

/-- Steps change nothing of a parser but its hooks. -/
theorem parser_after (steps : List SessionStep) : (s.after steps).parser = s.parser.rebuilt steps := by
  induction steps generalizing s with
  | nil => rfl
  | cons step rest ih => rw [after_cons, ih, parser_step, Parser.rebuilt_cons]

/-- A step keeps of the metadata what the processors keep. -/
theorem step_kept (hk : ∀ q ∈ s.parser.hooks.processors, q.KeepsMetadata) (step : SessionStep) :
    (s.step step).journal.metadata.TellsAlike s.journal.metadata := by
  cases step with
  | parse r => exact Parser.parse_kept hk
  | _ => exact .refl _

/-- A session keeps of the metadata what all its processors keep. -/
theorem after_kept (steps : List SessionStep)
    (hk : ∀ q ∈ (s.parser.rebuilt steps).hooks.processors, q.KeepsMetadata) :
    (s.after steps).journal.metadata.TellsAlike s.journal.metadata := by
  induction steps generalizing s with
  | nil => exact .refl _
  | cons step rest ih =>
    have hstep : (s.step step).journal.metadata.TellsAlike s.journal.metadata :=
      step_kept (fun q hq => hk q (Parser.processors_rebuilt _ hq)) step
    have hrest : ((s.step step).after rest).journal.metadata.TellsAlike
        (s.step step).journal.metadata := by
      apply ih
      rw [parser_step]
      exact hk
    rw [after_cons]
    exact hrest.trans hstep

end Session

namespace Parser
variable {i j : Journal}

def field : ParsedBlock := .mk (some "core/field") [] "" []

/-- A parser that tells one value of the metadata. -/
def telling (key : String) (hooks : Hooks) : Parser where
  registry := .ofTypes [⟨"core/field", [("value", .ofMeta key)]⟩]
  tokenize := fixed [field]
  hooks := hooks
  recorder := .silent
  settings := ⟨false, ""⟩

def tellingRequest (post : Int) : Request := ⟨"", some post, .none⟩

theorem field_attributes (m : Metadata) (post : Int) (key : String) :
    (SourcingPlan.sourceAttributes ⟨m, some post⟩ field [("value", .ofMeta key)]).outcome =
      (m.asked post key).map fun _ =>
        if (m.tells post key).isNull then [] else [("value", .stored post key)] := by
  have hfound : ((AttributeDefinition.ofMeta key).resolve ⟨m, some post⟩
      (Scope.ofFragment field.html)).outcome = (m.asked post key).map fun _ =>
        if (m.tells post key).isNull then none else some (.stored post key) := by
    rw [AttributeDefinition.ofMeta, AttributeDefinition.resolve, if_neg (by simp)]
    simp only [Log.Noted.outcome_bind]
    change (AttributeRule.metadataValue ⟨m, some post⟩ (some key)).outcome >>= _ = _
    rw [AttributeRule.outcome_metadataValue]
    cases m.asked post key with
    | error fault => rfl
    | ok _ =>
      change Except.ok (Option.or _ none) = _
      rw [Option.or_none]
      rfl
  change (SourcingPlan.sourceEach _ _ [("value", .ofMeta key)] []).outcome = _
  have hs : (AttributeDefinition.ofMeta key).isSourced = true := rfl
  rw [SourcingPlan.sourceEach, if_pos hs, Log.Noted.outcome_bind, hfound]
  cases m.asked post key with
  | error fault => rfl
  | ok _ =>
    by_cases hnull : (m.tells post key).isNull
    · simp only [hnull, ↓reduceIte]
      rfl
    · simp only [hnull]
      rfl

theorem ends_telling (post : Int) (key : String) {j : Journal} {m : Metadata}
    (hj : j.metadata = m) (hasked : m.asked post key = .ok ()) :
    ∃ i, (((telling key .none).plan (tellingRequest post)).sourceAll 0 [field]).ends j =
        (.ok ([field], [.mk (some "core/field") (some (if (m.tells post key).isNull then []
          else [("value", .stored post key)])) [] none]), i) ∧
      i.metadata = m ∧ i.warnings = j.warnings := by
  subst hj
  have hadmitted : (((telling key .none).plan (tellingRequest post)).isIncluded field).ends j =
      (.ok true, j) := rfl
  have hattributes := field_attributes j.metadata post key
  rw [SourcingPlan.ends_sourceAll_cons, SourcingPlan.ends_source_of_admitted hadmitted]
  change (((telling key .none).plan (tellingRequest post)).attributesOf j.metadata field).outcome = _
    at hattributes
  rw [hattributes, hasked]
  simp only [field, ParsedBlock.inner, SourcingPlan.ends_sourceAll_nil, Except.map]
  refine ⟨((telling key .none).plan (tellingRequest post)).attributed field j, ?_, rfl, rfl⟩
  by_cases hnull : (j.metadata.tells post key).isNull
  · simp only [hnull, ↓reduceIte]
    rfl
  · simp only [hnull]
    rfl

theorem telling_parse {post : Int} {key : String} {j : Journal}
    (hasked : j.metadata.asked post key = .ok ()) :
    ((telling key .none).parse (tellingRequest post) j).1 =
      .ok ⟨[.mk (some "core/field") (some (if (j.metadata.tells post key).isNull then []
        else [("value", j.metadata.tells post key)])) [] none], [], none⟩ := by
  have hrefusal : (telling key .none).refusal? (tellingRequest post) = .ok none := rfl
  have htokens : (telling key .none).tokenize (tellingRequest post).content = .ok [field] := rfl
  have htop : topBlocks [field] = [field] := rfl
  have hmetadata : (tokenized (tellingRequest post) [field]
      ((telling key .none).begun j)).metadata = j.metadata :=
    begun_metadata (p := telling key .none)
  have hecho (spoilt : Option Fault) : (telling key .none).lostEcho spoilt = none := rfl
  obtain ⟨i, hi, hm, hw⟩ := ends_telling post key hmetadata hasked
  change i.warnings = [] at hw
  rw [parse_eq, hrefusal]
  simp only [ends_parseBlocks, htokens, htop, hi, hecho, told, hw, hm]
  by_cases hnull : (j.metadata.tells post key).isNull
  · simp only [hnull, ↓reduceIte]
    rfl
  · simp only [hnull]
    rfl

/-- Where asking is a fault, there is no result. -/
theorem asked_of_telling {post : Int} {key : String} {j : Journal} {result : ParseResult}
    (h : ((telling key .none).parse (tellingRequest post) j).1 = .ok result) :
    j.metadata.asked post key = .ok () := by
  obtain ⟨tokens, parsed, sourced, i, htokens, hsourced, -⟩ := sourceAll_of_parse h
  cases htokens
  obtain ⟨_, _, _, _, _, hfirst, -⟩ := SourcingPlan.sourceAll_cons_cases hsourced
  obtain ⟨calls, ⟨hadmitted, -⟩ | ⟨-, _, _, _, _, _, hattributes, -⟩⟩ :=
    SourcingPlan.source_cases hfirst
  · cases hadmitted
  · have hasked := field_attributes j.metadata post key
    change (SourcingPlan.sourceAttributes ⟨((telling key .none).begun j).metadata, some post⟩ field
      [("value", .ofMeta key)]).outcome = _ at hattributes
    rw [begun_metadata, hasked] at hattributes
    cases hvalue : j.metadata.asked post key with
    | ok _ => rfl
    | error fault =>
      rw [hvalue] at hattributes
      cases hattributes

theorem eq_of_told {v w : Value} (h : (if v.isNull then [] else [("value", v)]) =
    if w.isNull then [] else [("value", w)]) : v = w := by
  by_cases hv : v.isNull <;> by_cases hw : w.isNull
  · rw [Value.eq_null_of_isNull hv, Value.eq_null_of_isNull hw]
  · simp [hv, hw] at h
  · simp [hv, hw] at h
  · simpa [hv, hw] using h

/-- Over metadata that a telling parser cannot tell apart, it is a fault to ask for the same keys. -/
theorem asked_iff_of_telling {post : Int} {key : String}
    (h : ((telling key .none).parse (tellingRequest post) i).1 =
      ((telling key .none).parse (tellingRequest post) j).1) :
    i.metadata.asked post key = .ok () ↔ j.metadata.asked post key = .ok () :=
  ⟨fun hi => asked_of_telling (h.symm.trans (telling_parse hi)),
    fun hj => asked_of_telling (h.trans (telling_parse hj))⟩

/-- Metadata tells the same values exactly if no confined parser can tell it apart. -/
theorem tellsAlike_iff_parse : i.metadata.TellsAlike j.metadata ↔
    ∀ (p : Parser) (r : Request), p.IsConfined → (p.parse r i).1 = (p.parse r j).1 := by
  constructor
  · intro h p r hc
    exact parse_of_tellsAlike hc h
  · intro h
    have hconfined (key : String) : (telling key .none).IsConfined := by
      intro q hq
      cases hq
    have hsame (post : Int) (key : String) :=
      h (telling key .none) (tellingRequest post) (hconfined key)
    refine ⟨fun post key => ?_, fun post key hpost => ?_⟩
    · by_cases hi : i.metadata.asked post key = .ok ()
      · have hj := (asked_iff_of_telling (hsame post key)).mp hi
        have htold := hsame post key
        rw [telling_parse hi, telling_parse hj] at htold
        simp only [Except.ok.injEq, ParseResult.mk.injEq, List.cons.injEq, Block.mk.injEq,
          Option.some.injEq, and_true, true_and] at htold
        exact eq_of_told htold
      · have hj := mt (asked_iff_of_telling (hsame post key)).mpr hi
        rw [Metadata.tells_of_not_asked hi, Metadata.tells_of_not_asked hj]
    · rw [Bool.eq_iff_iff, ← Metadata.asked_eq_ok_iff hpost, ← Metadata.asked_eq_ok_iff hpost]
      exact asked_iff_of_telling (hsame post key)

end Parser

namespace Session

/-- Each parse of a session has the outcome that the parser built anew has over the metadata as it
is by then: hooks, warnings, records and copies that have been cleared leave no other trace. Over
the metadata of the beginning, parsers answer as if nothing had been parsed exactly as long as it
tells the same values; it does if no processor changes a value of it in place. -/
theorem parse_rebuilt (p : Parser) (m : Metadata) (steps : List SessionStep) :
    let s := (start p m).after steps
    (∀ r, (s.parser.parse r s.journal).1 =
      ((p.rebuilt steps).parse r (.start s.journal.metadata)).1) ∧
    (s.journal.metadata.TellsAlike m ↔ ∀ (q : Parser) (r : Request), q.IsConfined →
      (q.parse r s.journal).1 = (q.parse r (.start m)).1) ∧
    ((p.rebuilt steps).IsConfined → s.journal.metadata.TellsAlike m → ∀ r,
      (s.parser.parse r s.journal).1 = ((p.rebuilt steps).parse r (.start m)).1) ∧
    ((∀ q ∈ (p.rebuilt steps).hooks.processors, q.KeepsMetadata) →
      s.journal.metadata.TellsAlike m) := by
  intro s
  have hparser : s.parser = p.rebuilt steps := parser_after steps
  refine ⟨?_, Parser.tellsAlike_iff_parse (j := .start m), ?_, ?_⟩
  · intro r
    rw [hparser]
    exact (Parser.respects_eq _ r).parse_alike rfl
  · intro hc h r
    rw [hparser]
    exact Parser.parse_of_tellsAlike (j := .start m) hc h
  · intro hk
    exact after_kept (s := start p m) steps hk

/-- How many items the first block of a result has under its first attribute. -/
def toldItems : ParseOutcome → Nat
  | .ok ⟨.mk _ (some ((_, .list items) :: _)) _ _ :: _, _, _⟩ => items.length
  | _ => 0

/-- Metadata with one list. -/
def tagged : Metadata := ⟨[(7, [("tags", .list [.str "new"])])]⟩

/-- A parser that tells a list of the metadata, to which its processor adds an item. -/
def adding : Parser :=
  .telling "tags" (Hooks.none.addProcessor (ProcessorRule.append "value" (.str "late")).toProcessor)

/-- One parse that adds to a list of the metadata is seen by the next one. -/
theorem parse_after_adding :
    let before := [.parse (Parser.tellingRequest 7)]
    let s := (start adding tagged).after before
    toldItems (s.parser.parse (Parser.tellingRequest 7) s.journal).1 = 3 ∧
    toldItems ((adding.rebuilt before).parse (Parser.tellingRequest 7) (.start tagged)).1 = 2 ∧
    (s.parser.parse (Parser.tellingRequest 7) s.journal).1 ≠
      ((adding.rebuilt before).parse (Parser.tellingRequest 7) (.start tagged)).1 := by
  intro before s
  have hsecond : toldItems (s.parser.parse (Parser.tellingRequest 7) s.journal).1 = 3 := by
    decide +kernel
  have hfirst : toldItems ((adding.rebuilt before).parse (Parser.tellingRequest 7) (.start tagged)).1 =
      2 := by
    decide +kernel
  refine ⟨hsecond, hfirst, ?_⟩
  intro hsame
  rw [hsame, hfirst] at hsecond
  cases hsecond

/-- Steps with a processor that puts a value of its own. -/
def assigningSteps : List SessionStep :=
  [.parse (Parser.tellingRequest 7), .addProcessor (ProcessorRule.assign "value" .null).toProcessor,
    .handOut .types, .clear 0, .parse (Parser.tellingRequest 7)]

theorem parse_after_assigning :
    let s := (start (.telling "tags" .none) tagged).after assigningSteps
    (s.parser.parse (Parser.tellingRequest 7) s.journal).1 =
      ((Parser.rebuilt (.telling "tags" .none) assigningSteps).parse (Parser.tellingRequest 7)
        (.start tagged)).1 := by
  intro s
  obtain ⟨-, -, hsame, hkept⟩ := parse_rebuilt (.telling "tags" .none) tagged assigningSteps
  have hprocessors : ∀ q ∈ (Parser.rebuilt (.telling "tags" .none)
      assigningSteps).hooks.processors, q = (ProcessorRule.assign "value" .null).toProcessor := by
    intro q hq
    exact List.mem_singleton.mp hq
  refine hsame ?_ (hkept ?_) _
  · intro q hq
    rw [hprocessors q hq]
    exact ProcessorRule.toProcessor_isConfined _
  · intro q hq
    rw [hprocessors q hq]
    exact ProcessorRule.toProcessor_keepsMetadata rfl

end Session
end EditorBlocks
