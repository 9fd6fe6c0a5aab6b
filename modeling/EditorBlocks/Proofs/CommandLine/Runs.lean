import EditorBlocks.CommandLine.Run
/-! How a run of the command ends: as the loading of its files does, or with what is printed of the
outcome of the parse. -/

namespace EditorBlocks.CommandLine
variable {o : Options} {s : Sources} {l : Loaded} {e : InputError}

/-- The metadata that sources give; without a file it is empty. -/
def Sources.givenMetadata (s : Sources) : Except InputError Metadata :=
  match s.metadata with
  | some file => Metadata.ofFile file
  | none => .ok .empty

/-- What is loaded, without the records. -/
def loaded (s : Sources) : Except InputError Loaded := do
  let content ← s.content.text
  let registry ← Registry.ofFile s.registry
  let blocks ← ParsedBlock.listOfFile s.blocks
  let metadata ← s.givenMetadata
  return ⟨content, registry, blocks, metadata⟩

theorem outcome_load (s : Sources) : (load s).outcome = loaded s := by
  unfold load loaded Registry.ofFile Sources.givenMetadata
  simp only [Log.Noted.outcome_bind, Log.Noted.outcome_ofExcept, bind_assoc]
  refine congrArg _ (funext fun content => congrArg _ (funext fun data =>
    congrArg _ (funext fun registry => ?_)))
  rw [Log.Noted.outcome_note]
  change (ParsedBlock.listOfFile s.blocks >>= _) = _
  refine congrArg _ (funext fun blocks => ?_)
  cases s.metadata with
  | none => rfl
  | some file => exact Log.Noted.outcome_bind _ _

/-- The outcome of the parse of what is loaded. -/
def parsed (o : Options) (s : Sources) (l : Loaded) : ParseOutcome :=
  ((parser o s.debugText l).parse ⟨l.content, o.postId, o.filter⟩ (.start l.metadata)).1

/-- The ending when everything has been loaded. -/
def endingOf (o : Options) (outcome : ParseOutcome) : Ending :=
  match outcomeValue outcome with
  | .error fault => .raised fault
  | .ok v =>
    match printedText o v with
    | .ok text => .printed (succeeded outcome) text
    | .error problem => .unprintable problem

theorem ending_finish (outcome : ParseOutcome) (records : List Log.Record) :
    (finish o outcome records).ending = endingOf o outcome := by
  unfold finish endingOf
  cases outcomeValue outcome with
  | error fault => rfl
  | ok v =>
    simp only
    cases printedText o v <;> rfl

theorem ending_run_of_ok (h : loaded s = .ok l) : (run o s).ending = endingOf o (parsed o s l) := by
  rw [← outcome_load] at h
  simp only [run, h, ending_finish, parsed]

end EditorBlocks.CommandLine
