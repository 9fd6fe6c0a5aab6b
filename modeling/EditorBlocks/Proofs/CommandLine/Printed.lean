import EditorBlocks.Proofs.Attribute.Dumped
import EditorBlocks.Proofs.Attribute.Printable
import EditorBlocks.Proofs.CommandLine.Runs
import EditorBlocks.Proofs.Session.Classification
import EditorBlocks.Proofs.Session.Noninterference
/-! What a run prints: one JSON document that is read back as the outcome of the parse, if all that is
loaded is data of JSON. -/

namespace EditorBlocks

namespace Value

mutual
/-- Reduced data of JSON is data of JSON. -/
theorem isJson_reduced : ∀ v : Value, v.isJson → v.reduced.isJson
  | null => fun _ => rfl
  | bool _ => fun _ => rfl
  | str _ => fun _ => rfl
  | int n => fun h => h
  | float x => fun h => by
    cases x with
    | nan => rfl
    | infinity negative => rfl
    | finite negative significand exponent => exact h
  | list items => fun h => by
    rw [reduced, isJson_list]
    exact isJson_reducedItems items (isJson_list.mp h)
  | map entries => fun h => by
    rw [isJson, Bool.and_eq_true] at h
    rw [reduced]
    exact isJson_ofList (isJson_reducedEntries entries h.1)
  | date _ | moment _ | bytes _ | set _ | pair _ _ => fun h => absurd h Bool.false_ne_true

theorem isJson_reducedItems : ∀ items : List Value, (∀ v ∈ items, v.isJson) →
    ∀ v ∈ reducedItems items, v.isJson
  | [], _ => fun _ h => (List.not_mem_nil h).elim
  | v :: rest, h => by
    obtain ⟨hv, hrest⟩ := List.forall_mem_cons.mp h
    rw [reducedItems]
    exact List.forall_mem_cons.mpr ⟨isJson_reduced v hv, isJson_reducedItems rest hrest⟩

theorem isJson_reducedEntry : ∀ e : Value × Value, entryJson e → (reducedEntry e).2.isJson
  | (k, v) => fun h => by
    have hv : v.isJson := by
      cases k with
      | str name => rwa [entryJson] at h
      | _ => cases h
    exact isJson_reduced v hv

theorem isJson_reducedEntries : ∀ es : List (Value × Value), entriesJson es →
    ∀ m ∈ reducedEntries es, m.2.isJson
  | [] => fun _ _ h => (List.not_mem_nil h).elim
  | e :: rest => fun h => by
    rw [entriesJson, Bool.and_eq_true] at h
    rw [reducedEntries]
    exact List.forall_mem_cons.mpr ⟨isJson_reducedEntry e h.1, isJson_reducedEntries rest h.2⟩
end

end Value

/-! ### Debug data -/

namespace AttributeDefinition

theorem isJson_optionalText (s : Option String) : (optionalText s).isJson := by
  cases s <;> rfl

/-- The members of a rule of JSON have names of their own, and data of JSON. -/
theorem isJson_members {withNulls : Bool} {data : Value → Value} {rule : AttributeRule}
    {query : Option (List (String × AttributeDefinition))} (h : rule.IsJson)
    (hquery : (queryValue withNulls data query).isJson) :
    (Value.object (members withNulls data rule query)).isJson := by
  obtain ⟨hnames, hvalues⟩ := Value.isJson_object.mp h.extras
  rw [Value.isJson_object]
  refine ⟨nodup_members hnames h.apart, ?_⟩
  rw [members, List.forall_mem_append]
  refine ⟨?_, hvalues⟩
  simp only [List.forall_mem_cons, isJson_optionalText, h.fallback, hquery, true_and]
  exact fun _ h => (List.not_mem_nil h).elim

mutual
/-- A definition as reduced data is data of JSON. -/
theorem isJson_toValue (withNulls : Bool) : ∀ d : AttributeDefinition, d.IsJson →
    (d.toValue withNulls Value.reduced).isJson
  | mk rule query, h => by
    have hquery : (queryValue withNulls Value.reduced query).isJson := by
      cases query with
      | none => rfl
      | some items =>
        cases h with
        | query _ hnames hitems =>
          rw [queryValue, Value.isJson_object, itemValues_keys]
          exact ⟨hnames, isJson_itemValues withNulls items hitems⟩
    obtain ⟨hnames, hvalues⟩ := Value.isJson_object.mp (isJson_members h.rule hquery)
    rw [toValue, Value.isJson_object, Entries.keys, List.map_map, List.forall_mem_map]
    refine ⟨hnames.sublist (List.filter_sublist.map Prod.fst), fun m hm => ?_⟩
    have hvalue := hvalues m (List.mem_of_mem_filter hm)
    simp only
    split
    · exact hvalue
    · exact Value.isJson_reduced m.2 hvalue

theorem isJson_itemValues (withNulls : Bool) : ∀ items : List (String × AttributeDefinition),
    (∀ item ∈ items, item.2.IsJson) → ∀ m ∈ itemValues withNulls Value.reduced items, m.2.isJson
  | [], _ => fun _ h => (List.not_mem_nil h).elim
  | item :: rest, h => by
    obtain ⟨hitem, hrest⟩ := List.forall_mem_cons.mp h
    rw [itemValues]
    exact List.forall_mem_cons.mpr ⟨isJson_itemValue withNulls item hitem,
      isJson_itemValues withNulls rest hrest⟩

theorem isJson_itemValue (withNulls : Bool) : ∀ item : String × AttributeDefinition,
    item.2.IsJson → (itemValue withNulls Value.reduced item).2.isJson
  | (_, d), h => isJson_toValue withNulls d h
end

end AttributeDefinition

/-! ### Results -/

namespace Value
variable {members others : List (String × Value)}

theorem isJson_of_sublist (h : (object others).isJson) (hs : members.Sublist others) :
    (object members).isJson := by
  rw [isJson_object] at h ⊢
  exact ⟨h.1.sublist (hs.map Prod.fst), fun m hm => h.2 m (hs.subset hm)⟩

/-- An object whose last two members can be left out. -/
theorem isJson_optional {last : String} {member : String × Value}
    {debug : Option (List (String × Value))} (absent : Bool)
    (h : (object (members ++ [member, (last, object (debug.getD []))])).isJson) :
    (object (members ++ (if absent then [] else [member]) ++
      (debug.map fun es => (last, object es)).toList)).isJson := by
  have hmember : (if absent then [] else [member]).Sublist [member] := by
    split
    · exact List.nil_sublist _
    · exact .refl _
  have hlast : (debug.map fun es => (last, object es)).toList.Sublist
      [(last, object (debug.getD []))] := by
    cases debug with
    | none => exact List.nil_sublist _
    | some es => exact .refl _
  rw [List.append_assoc]
  exact isJson_of_sublist h ((List.Sublist.refl members).append (hmember.append hlast))

end Value

namespace SourcedBlock

theorem toValues_eq_map (bs : List SourcedBlock) : toValues bs = bs.map toValue := by
  induction bs with
  | nil => rfl
  | cons b rest ih => rw [toValues, ih, List.map_cons]

/-- A block is data of JSON if its attributes, its debug data and the blocks inside are. -/
theorem isJson_toValue {name : Option String} {attributes : List (String × Value)}
    {inner : List SourcedBlock} {debug : Option (List (String × Value))}
    (ha : (Value.object attributes).isJson) (hinner : ∀ b ∈ inner, (toValue b).isJson)
    (hdebug : (Value.object (debug.getD [])).isJson) :
    (toValue (.mk name (some attributes) inner debug)).isJson := by
  have hname : (nameValue name).isJson := by cases name <;> rfl
  have hnames : ["name", "attributes", "innerBlocks", "debug"].Nodup := by decide
  have hlist : (Value.list (toValues inner)).isJson := by
    rw [Value.isJson_list, toValues_eq_map]
    exact List.forall_mem_map.mpr hinner
  rw [toValue]
  refine Value.isJson_optional _ (Value.isJson_object.mpr ⟨hnames, ?_⟩)
  simp only [List.cons_append, List.nil_append, List.forall_mem_cons, hname, Option.getD_some, ha,
    hlist, hdebug, true_and]
  exact fun _ h => (List.not_mem_nil h).elim

end SourcedBlock

namespace ParseResult

theorem isJson_toValue {r : ParseResult} (h : ∀ b ∈ r.blocks, b.toValue.isJson)
    (hdebug : (Value.object (r.debug.getD [])).isJson) : r.toValue.isJson := by
  have hnames : ["blocks", "warnings", "debug"].Nodup := by decide
  have hblocks : (Value.list (SourcedBlock.toValues r.blocks)).isJson := by
    rw [Value.isJson_list, SourcedBlock.toValues_eq_map]
    exact List.forall_mem_map.mpr h
  have hwarnings : (Value.list (r.warnings.map .str)).isJson :=
    Value.isJson_list.mpr (List.forall_mem_map.mpr fun _ _ => rfl)
  rw [toValue]
  refine Value.isJson_optional _ (Value.isJson_object.mpr ⟨hnames, ?_⟩)
  simp only [List.cons_append, List.nil_append, List.forall_mem_cons, hblocks, hwarnings, hdebug,
    true_and]
  exact fun _ h => (List.not_mem_nil h).elim

end ParseResult

theorem ParseFailure.isJson_toValue (f : ParseFailure) : f.toError.toValue.isJson := by
  have hnames : ["code", "message", "status", "details"].Nodup := by decide
  have hstatus : (Value.int f.kind.status).isJson := by
    rw [Value.isJson]
    cases f.kind <;> decide +kernel
  have hdetails : ((f.toError.details.map Value.str).getD .null).isJson := by
    cases f.toError.details <;> rfl
  have hall : (Value.object [("code", .str f.kind.code), ("message", .str f.message),
      ("status", .int f.kind.status),
      ("details", (f.toError.details.map Value.str).getD .null)]).isJson := by
    rw [Value.isJson_object]
    refine ⟨hnames, ?_⟩
    simp only [List.forall_mem_cons, hstatus, hdetails, true_and]
    exact ⟨rfl, rfl, fun _ h => (List.not_mem_nil h).elim⟩
  exact Value.isJson_of_sublist hall List.filter_sublist

/-! ### Parses -/

namespace SourcingPlan
variable {plan : SourcingPlan} {metadata : Metadata}

theorem definitionsOf_areJson (hr : plan.registry.IsJson) (name : Option String) :
    ∀ e ∈ plan.definitionsOf name, e.2.IsJson := by
  unfold definitionsOf
  cases htype : plan.typeOf name with
  | none => exact fun _ h => (List.not_mem_nil h).elim
  | some type =>
    obtain ⟨key, -, hfind⟩ := Option.bind_eq_some_iff.mp htype
    exact (hr key type hfind).items

theorem isJson_foundAttributes (hr : plan.registry.IsJson) (hm : metadata.IsJson)
    (block : ParsedBlock) (hb : (Value.object block.attrs).isJson) {found : List (String × Value)}
    (h : plan.foundAttributes metadata block = .ok found) : (Value.object found).isJson := by
  have hexplicit : (Value.object (Entries.mapValues (Held.settle ⟨metadata, block.attrsAt⟩)
      (block.attrs.map fun e => (e.1, .explicit [] e.1)))).isJson := by
    obtain ⟨hnames, hvalues⟩ := Value.isJson_object.mp hb
    rw [Value.isJson_object, Entries.keys_mapValues, Entries.keys, List.map_map, Entries.mapValues,
      List.map_map, List.forall_mem_map]
    refine ⟨hnames, fun e _ => ?_⟩
    change ((Entries.find? e.1 block.attrs).getD .null).isJson
    cases hv : Entries.find? e.1 block.attrs with
    | none => rfl
    | some v => exact hvalues _ (Entries.mem_of_find? hv)
  rw [foundAttributes] at h
  cases hmerged : (plan.attributesOf metadata block).outcome with
  | error e =>
    rw [hmerged] at h
    cases h
  | ok merged =>
    rw [hmerged] at h
    cases h
    exact isJson_sourceEach ⟨metadata, plan.postId⟩ hm
      (definitionsOf_areJson hr block.name) hexplicit hmerged

theorem isJson_shown (hr : plan.registry.IsJson) {name : Option String}
    {debug : Option (List (String × Value))} (h : plan.shown (plan.typeOf name) = .ok debug) :
    (Value.object (debug.getD [])).isJson := by
  rw [shown_typeOf] at h
  split at h
  swap
  · cases h
  cases h
  split
  · rw [Option.getD_some, debugData, Value.isJson_object]
    refine ⟨List.nodup_singleton _, List.forall_mem_singleton.mpr ?_⟩
    cases htype : plan.typeOf name with
    | none => rfl
    | some type =>
      obtain ⟨key, -, hfind⟩ := Option.bind_eq_some_iff.mp htype
      obtain ⟨hnames, hitems⟩ := hr key type hfind
      rw [Option.map_some, Option.getD_some, Value.isJson_object,
        AttributeDefinition.itemValues_keys]
      exact ⟨hnames, AttributeDefinition.isJson_itemValues false _ hitems⟩
  · rfl

mutual
/-- A block of JSON is completed to one. -/
theorem isJson_complete (hr : plan.registry.IsJson) (hm : metadata.IsJson) : ∀ b : ParsedBlock,
    b.toValue.isJson → ∀ completed, (plan.findings metadata).complete b = .ok (some completed) →
      completed.toValue.isJson
  | .mk name attrs html inner, h, completed, hc => by
    obtain ⟨hattrs, hinner⟩ := ParsedBlock.isJson_toValue.mp h
    rw [Findings.complete, bind_eq_ok] at hc
    obtain ⟨included, -, hc⟩ := hc
    cases included with
    | false => cases hc
    | true =>
      rw [if_pos rfl, bind_eq_ok] at hc
      obtain ⟨found, hfound, hc⟩ := hc
      obtain ⟨below, hbelow, hc⟩ := bind_eq_ok.mp hc
      obtain ⟨debug, hdebug, hc⟩ := bind_eq_ok.mp hc
      cases hc
      have hvalues := isJson_foundAttributes hr hm (.mk name attrs html inner) hattrs hfound
      exact SourcedBlock.isJson_toValue hvalues
        (isJson_completeAll hr hm inner hinner below hbelow) (isJson_shown hr hdebug)

theorem isJson_completeAll (hr : plan.registry.IsJson) (hm : metadata.IsJson) :
    ∀ bs : List ParsedBlock, (∀ b ∈ bs, b.toValue.isJson) →
      ∀ completed, (plan.findings metadata).completeAll bs = .ok completed →
        ∀ c ∈ completed, c.toValue.isJson
  | [], _, completed, hc => by
    cases hc
    exact fun _ h => (List.not_mem_nil h).elim
  | b :: rest, h, completed, hc => by
    obtain ⟨hb, hrest⟩ := List.forall_mem_cons.mp h
    rw [Findings.completeAll, bind_eq_ok] at hc
    obtain ⟨first, hfirst, hc⟩ := hc
    obtain ⟨others, hothers, hc⟩ := bind_eq_ok.mp hc
    cases hc
    have hlater := isJson_completeAll hr hm rest hrest others hothers
    cases first with
    | none => exact hlater
    | some c =>
      exact List.forall_mem_cons.mpr ⟨isJson_complete hr hm b hb c hfirst, hlater⟩
end

end SourcingPlan

namespace Parser
variable {p : Parser} {r : Request} {j : Journal}

theorem isJson_debugData {blocks : List ParsedBlock} (h : ∀ b ∈ blocks, b.toValue.isJson)
    (content : String) : (Value.object (debugData blocks content)).isJson := by
  have hnames : ["blocks_parsed", "content"].Nodup := by decide
  have hblocks : (Value.list (ParsedBlock.toValues blocks)).isJson := by
    rw [Value.isJson_list, ParsedBlock.toValues_eq_map]
    exact List.forall_mem_map.mpr h
  rw [debugData, Value.isJson_object]
  exact ⟨hnames, List.forall_mem_cons.mpr ⟨hblocks, List.forall_mem_singleton.mpr rfl⟩⟩

/-- A parse whose post has a number that can be written does not raise a fault. -/
theorem exists_outcomeValue (hpost : r.postId.all Text.fitsDigitLimit) :
    ∃ v, CommandLine.outcomeValue (p.parse r j).1 = .ok v := by
  have hended := parse_ended p r j
  generalize (p.parse r j).1 = outcome at hended
  cases hended with
  | unmarkedNameless _ _ hname | faultNameless _ _ _ hname =>
    exact absurd (Request.canName_of_fits hpost) hname
  | _ => exact ⟨_, rfl⟩

/-- What a parse without processors comes to is data of JSON, if what it works on is. -/
theorem isJson_outcomeValue (hq : p.hooks.processors = []) (hr : p.registry.IsJson)
    (hm : j.metadata.IsJson)
    (ht : ∀ tokens, p.tokenize r.content = .ok tokens → ∀ b ∈ tokens, b.toValue.isJson)
    {v : Value} (hv : CommandLine.outcomeValue (p.parse r j).1 = .ok v) : v.isJson := by
  cases houtcome : (p.parse r j).1 with
  | error unparsed =>
    rw [houtcome] at hv
    cases unparsed with
    | failure failure =>
      cases hv
      exact failure.isJson_toValue
    | raised fault reporting => cases hv
  | ok result =>
    rw [houtcome] at hv
    cases hv
    have hdirectly : .ok result = p.directly r j.metadata := by
      rw [← ends_directly hq, ends_of_parse houtcome]
    obtain ⟨tokens, htokens, hresult⟩ := bind_eq_ok.mp hdirectly.symm
    obtain ⟨blocks, hblocks, hresult⟩ := bind_eq_ok.mp hresult
    cases hresult
    have htop : ∀ b ∈ topBlocks tokens, b.toValue.isJson := fun b hb =>
      ht tokens htokens b (List.mem_of_mem_filter hb)
    refine ParseResult.isJson_toValue
      (SourcingPlan.isJson_completeAll hr hm _ htop blocks hblocks) ?_
    simp only
    split
    · exact isJson_debugData htop r.content
    · rfl

end Parser

namespace CommandLine
variable {s : Sources} {l : Loaded}

/-- All that is loaded is data of JSON. -/
structure Loaded.IsJson (l : Loaded) : Prop where
  registry : l.registry.IsJson
  blocks : ∀ b ∈ l.blocks, b.toValue.isJson
  metadata : l.metadata.IsJson

/-- The files hold data of JSON, as far as they can be read; in metadata the keys of posts may be of any
kind. -/
def Sources.isJson (s : Sources) : Bool :=
  s.registry.data.toOption.all Value.isJson && s.blocks.data.toOption.all Value.isJson
    && s.metadata.all fun f => f.data.toOption.all Value.holdsJson

theorem isJson_loaded (hs : s.isJson) (h : loaded s = .ok l) : l.IsJson := by
  rw [loaded, bind_eq_ok] at h
  obtain ⟨content, -, h⟩ := h
  obtain ⟨registry, hregistry, h⟩ := bind_eq_ok.mp h
  obtain ⟨blocks, hblocks, h⟩ := bind_eq_ok.mp h
  obtain ⟨metadata, hmetadata, h⟩ := bind_eq_ok.mp h
  cases h
  obtain ⟨data, hdata, hregistry⟩ := bind_eq_ok.mp hregistry
  obtain ⟨list, hlist, hblocks⟩ := bind_eq_ok.mp hblocks
  rw [Sources.isJson, hdata, hlist, Bool.and_eq_true, Bool.and_eq_true] at hs
  obtain ⟨⟨hdata, hlist⟩, hfile⟩ := hs
  refine ⟨Registry.isJson_ofData hdata hregistry, ParsedBlock.isJson_of_listOfData hlist hblocks, ?_⟩
  unfold Sources.givenMetadata at hmetadata
  cases hs : s.metadata with
  | none =>
    rw [hs] at hmetadata
    cases hmetadata
    exact Metadata.isJson_empty
  | some file =>
    rw [hs] at hmetadata hfile
    exact Metadata.isJson_ofFile hfile hmetadata

theorem isJson_parsed (o : Options) (s : Sources) (h : l.IsJson) {v : Value}
    (hv : outcomeValue (parsed o s l) = .ok v) : v.isJson := by
  refine Parser.isJson_outcomeValue rfl h.registry h.metadata (fun tokens htokens => ?_) hv
  cases htokens
  exact h.blocks

/-- A run over files of JSON data that can be loaded prints one JSON document, which is read back as
the outcome of the parse; the exit code tells whether that is a result. The number of the post must be
one that can be written. -/
theorem run_prints_outcome (o : Options) (s : Sources) (l : Loaded) (hs : s.isJson)
    (hpost : o.postId.all Text.fitsDigitLimit) (hl : loaded s = .ok l) :
    ∃ v text, outcomeValue (parsed o s l) = .ok v ∧
      (run o s).ending = .printed (succeeded (parsed o s l)) text ∧ Json.read text = .ok v ∧
      (run o s).ending.code = if succeeded (parsed o s l) then 0 else 1 := by
  have hlineEnd : ['\n'].all Json.isSpace := by decide
  obtain ⟨v, hv⟩ : ∃ v, outcomeValue (parsed o s l) = .ok v := Parser.exists_outcomeValue hpost
  obtain ⟨text, hwritten, hread⟩ := Json.read_write ⟨.unicode, some o.indent.toNat⟩
    (isJson_parsed o s (isJson_loaded hs hl) hv) hlineEnd
  have hprinted : printedText o v = .ok (text ++ "\n") := by
    rw [printedText, hwritten]
    rfl
  have hending : (run o s).ending = .printed (succeeded (parsed o s l)) (text ++ "\n") := by
    rw [ending_run_of_ok hl, endingOf, hv]
    simp only [hprinted]
  refine ⟨v, text ++ "\n", hv, hending, hread, ?_⟩
  rw [hending]
  cases succeeded (parsed o s l) <;> rfl

/-- Options with debug data, for one post. -/
def plainOptions : Options where
  content := "post.html"
  blocks := "blocks.json"
  registry := "registry.json"
  metadata := some "meta.yaml"
  postId := some 7
  filter := .none
  debug := true
  indent := 2
  logFile := none
  verbose := false

/-- Files of JSON data. The key of the post in the metadata is a number. -/
def plainSources : Sources where
  content := ⟨"post.html", some "<!-- wp:x -->".toUTF8⟩
  blocks := ⟨"blocks.json",
    some "[\x7b\"blockName\": \"x\", \"attrs\": \x7b\"size\": 0.5\x7d\x7d]".toUTF8⟩
  registry := ⟨"registry.yaml",
    some "x: \x7battributes: \x7bday: \x7bsource: meta, meta: day, default: [1]\x7d\x7d\x7d".toUTF8⟩
  metadata := some ⟨"meta.yaml", some "7: \x7bday: null\x7d".toUTF8⟩
  debugText := ""

theorem plainSources_printed : plainSources.isJson ∧ ∃ l v text, loaded plainSources = .ok l ∧
    outcomeValue (parsed plainOptions plainSources l) = .ok v ∧
    (run plainOptions plainSources).ending =
      .printed (succeeded (parsed plainOptions plainSources l)) text ∧
    Json.read text = .ok v := by
  have hjson : plainSources.isJson := by decide +kernel
  have hloaded : (loaded plainSources).isOk := by decide +kernel
  cases hl : loaded plainSources with
  | error e =>
    rw [hl] at hloaded
    cases hloaded
  | ok l =>
    obtain ⟨v, text, hv, hending, hread, -⟩ :=
      run_prints_outcome plainOptions plainSources l hjson (by decide) hl
    exact ⟨hjson, l, v, text, rfl, hv, hending, hread⟩

/-- A registry with a day as a default. -/
def datedSources : Sources where
  content := ⟨"post.html", some "<!-- wp:x -->".toUTF8⟩
  blocks := ⟨"blocks.json", some "[\x7b\"blockName\": \"x\"\x7d]".toUTF8⟩
  registry := ⟨"registry.yaml",
    some "x: \x7battributes: \x7bday: \x7bdefault: 2024-01-02\x7d\x7d\x7d".toUTF8⟩
  metadata := none
  debugText := ""

/-- The files can be loaded, and yet nothing is printed. -/
theorem datedSources_unprintable : (loaded datedSources).isOk ∧
    ∀ success text, (run plainOptions datedSources).ending ≠ .printed success text := by
  have hloaded : (loaded datedSources).isOk := by decide +kernel
  have hending : (match (run plainOptions datedSources).ending with
      | .printed _ _ => false
      | _ => true) = true := by decide +kernel
  refine ⟨hloaded, fun success text h => ?_⟩
  rw [h] at hending
  cases hending

end CommandLine

end EditorBlocks
