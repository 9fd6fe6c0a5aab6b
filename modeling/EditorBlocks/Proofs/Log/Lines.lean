import EditorBlocks.Log.Line
import EditorBlocks.Proofs.Input.Loading
import EditorBlocks.Proofs.Text.Boundary
/-! Log lines for programs: each record has one line, which is read back as what the record says. -/

namespace EditorBlocks

namespace Json
variable {depth : Nat} {k : String} {v : Value} {cs : List Char}

theorem all_isPlainAscii_escapedChar (c : Char) : (escapedChar .ascii c).all Text.isPlainAscii := by
  have hunit (n : Nat) : (unitEscape n).all Text.isPlainAscii := by
    rw [unitEscape, List.all_cons, List.all_cons, Text.all_isPlainAscii_hexDigits]
    rfl
  unfold escapedChar
  dsimp only
  -- the seven escapes of two characters come first
  iterate 7 refine Text.all_ite (fun _ => rfl) fun _ => ?_
  refine Text.all_ite (fun _ => hunit _) fun hlow => Text.all_ite (fun hhigh => ?_) fun _ =>
    Text.all_ite (fun _ => hunit _) fun _ => ?_
  · have hless : c.toNat < 127 := by simpa using hhigh
    simp [Text.isPlainAscii, hless, not_lt.mp hlow]
  · rw [List.all_append, hunit, hunit]
    rfl

theorem all_isPlainAscii_stringChars (s : String) :
    (stringChars .ascii s).all Text.isPlainAscii := by
  have hbody : (s.toList.flatMap (escapedChar .ascii)).all Text.isPlainAscii := by
    rw [List.all_flatMap, List.all_eq_true]
    exact fun c _ => all_isPlainAscii_escapedChar c
  rw [stringChars, List.all_cons, List.all_append, hbody]
  rfl

/-- The values that the members of log lines have. -/
inductive IsFlat : Value → Prop
  | str (s : String) : IsFlat (.str s)
  | int (n : Int) : IsFlat (.int n)

theorem IsFlat.valueChars (hv : IsFlat v) (h : valueChars ⟨.ascii, none⟩ depth v = .ok cs) :
    cs.all Text.isPlainAscii ∧ v.isJson := by
  cases hv with
  | str s =>
    rw [Json.valueChars] at h
    rw [← Except.ok.inj h]
    exact ⟨all_isPlainAscii_stringChars s, rfl⟩
  | int n =>
    by_cases hfits : Text.fitsDigitLimit n
    · rw [Json.valueChars, wholeText, Text.intText?_of_fits hfits] at h
      rw [← Except.ok.inj h]
      exact ⟨Text.all_isPlainAscii_toString n, hfits⟩
    · rw [Bool.not_eq_true] at hfits
      rw [Json.valueChars, wholeText, Text.intText?_eq_none.mpr hfits] at h
      cases h

theorem flat_entryChars (hv : IsFlat v) (h : entryChars ⟨.ascii, none⟩ depth (.str k, v) = .ok cs) :
    cs.all Text.isPlainAscii ∧ v.isJson := by
  obtain ⟨_, hname, h⟩ := bind_eq_ok.mp h
  obtain ⟨text, htext, h⟩ := bind_eq_ok.mp h
  cases hname
  cases h
  obtain ⟨hplain, hjson⟩ := hv.valueChars htext
  refine ⟨?_, hjson⟩
  rw [List.all_append, all_isPlainAscii_stringChars, List.all_cons, List.all_cons, hplain]
  rfl

theorem flat_entriesChars {members : List (String × Value)} (hm : ∀ m ∈ members, IsFlat m.2)
    (h : entriesChars ⟨.ascii, none⟩ depth (members.map fun m => (.str m.1, m.2)) = .ok cs) :
    cs.all Text.isPlainAscii ∧ ∀ m ∈ members, m.2.isJson := by
  induction members generalizing cs with
  | nil =>
    rw [List.map_nil, entriesChars] at h
    cases h
    exact ⟨rfl, List.forall_mem_nil _⟩
  | cons m rest ih =>
    obtain ⟨hfirst, hrest⟩ := List.forall_mem_cons.mp hm
    rw [List.map_cons, entriesChars] at h
    obtain ⟨first, hfirstChars, h⟩ := bind_eq_ok.mp h
    obtain ⟨others, hothers, h⟩ := bind_eq_ok.mp h
    cases h
    obtain ⟨hplain, hjson⟩ := flat_entryChars hfirst hfirstChars
    obtain ⟨hplains, hjsons⟩ := ih hrest hothers
    refine ⟨?_, List.forall_mem_cons.mpr ⟨hjson, hjsons⟩⟩
    rw [List.all_append, List.all_append, hplain, hplains]
    rfl

/-- An object of flat members is written in ASCII without controls, if all its numbers are. -/
theorem flat_write {m : String × Value} {rest : List (String × Value)} {text : String}
    (hm : ∀ m' ∈ m :: rest, IsFlat m'.2)
    (h : write ⟨.ascii, none⟩ (.object (m :: rest)) = .ok text) :
    text.toList.all Text.isPlainAscii ∧ text ≠ "" ∧ ∀ m' ∈ m :: rest, m'.2.isJson := by
  obtain ⟨hfirst, hrest⟩ := List.forall_mem_cons.mp hm
  obtain ⟨cs, hcs, rfl⟩ := map_eq_ok.mp h
  rw [Value.object, List.map_cons, valueChars] at hcs
  obtain ⟨first, hfirstChars, hcs⟩ := bind_eq_ok.mp hcs
  obtain ⟨others, hothers, hcs⟩ := bind_eq_ok.mp hcs
  cases hcs
  obtain ⟨hplain, hjson⟩ := flat_entryChars hfirst hfirstChars
  obtain ⟨hplains, hjsons⟩ := flat_entriesChars hrest hothers
  refine ⟨?_, ?_, List.forall_mem_cons.mpr ⟨hjson, hjsons⟩⟩
  · rw [String.toList_ofList, List.all_cons, List.all_append, List.all_append, List.all_append,
      List.all_append, hplain, hplains]
    rfl
  · rw [ne_eq, ← String.toList_eq_nil_iff, String.toList_ofList]
    exact List.cons_ne_nil _ _

end Json

namespace Log
variable {time : Moment} {r : Record}

/-- Whether a record has a line: its post number must not have too many digits. -/
def Record.isWritable (r : Record) : Bool := r.context.postId.all Text.fitsDigitLimit

/-- The names that members of a line can have. -/
def memberNames : List String :=
  ["timestamp", "level", "logger", "message", "post_id", "block_name", "exception"]

/-- What the members of a line say about a record at a moment. No member is there twice, and there
is no other. -/
structure Record.ToldBy (r : Record) (time : Moment) (members : List (String × Value)) : Prop where
  names : (Entries.keys members).Nodup
  only : Entries.keys members ⊆ memberNames
  timestamp : Entries.find? "timestamp" members = some (.str time.text)
  level : ∀ level : Level, Entries.find? "level" members = some (.str level.name) ↔ level = r.level
  logger : Entries.find? "logger" members = some (.str r.logger)
  message : Entries.find? "message" members = some (.str r.message)
  postId : Entries.find? "post_id" members = r.context.postId.map .int
  blockName : Entries.find? "block_name" members = r.context.blockName.map .str
  exception : Entries.find? "exception" members = r.raised.map fun raised => .str raised.describe

theorem toString_injective {m n : Int} (h : toString m = toString n) : m = n := by
  have hdigits : ∀ k : Int, '-' ∉ Nat.toDigits 10 k.natAbs := fun k hk =>
    absurd (List.all_eq_true.mp (Text.all_isAsciiDigit_toDigits k.natAbs) '-' hk) (by decide)
  have hvalues : ∀ k l : Int, Nat.toDigits 10 k.natAbs = Nat.toDigits 10 l.natAbs →
      k.natAbs = l.natAbs := by
    intro k l h
    rw [← Text.asciiValue_toDigits k.natAbs, h, Text.asciiValue_toDigits]
  have hchars := congrArg String.toList h
  rw [Json.toList_toString, Json.toList_toString] at hchars
  split_ifs at hchars with hm hn hn
  · have hsame := hvalues m n (List.append_cancel_left hchars)
    omega
  · have hmem : '-' ∈ [] ++ Nat.toDigits 10 n.natAbs := by
      rw [← hchars]
      exact List.mem_cons_self
    exact absurd hmem (hdigits n)
  · have hmem : '-' ∈ [] ++ Nat.toDigits 10 m.natAbs := by
      rw [hchars]
      exact List.mem_cons_self
    exact absurd hmem (hdigits m)
  · have hsame := hvalues m n hchars
    omega

/-- Levels are told apart by their names: those without one are numbered. -/
theorem Level.name_injective : Function.Injective Level.name := by
  let named : List Level := [debug, info, warning, error, critical, 0]
  have hnamed : ∀ l ∈ named, ∀ l' ∈ named, l.name = l'.name → l = l' := by decide
  have hhead : ∀ l ∈ named, l.name.toList.head? ≠ some 'L' := by decide
  have hother : ∀ l ∉ named, l.name = "Level " ++ toString l := by
    intro l hl
    simp only [named, List.mem_cons, List.not_mem_nil, or_false, not_or] at hl
    simp [Level.name, hl]
  have hfirst : ∀ l ∉ named, l.name.toList.head? = some 'L' := by
    intro l hl
    rw [hother l hl, String.toList_append]
    rfl
  intro m n h
  by_cases hm : m ∈ named <;> by_cases hn : n ∈ named
  · exact hnamed m hm n hn h
  · exact absurd (h ▸ hfirst n hn) (hhead m hm)
  · exact absurd (h ▸ hfirst m hm) (hhead n hn)
  · rw [hother m hm, hother n hn, String.append_right_inj] at h
    exact toString_injective h

theorem keys_optional {α : Type} (k : String) (f : α → Value) (a : Option α) :
    (Entries.keys (a.map fun a => (k, f a)).toList).Sublist [k] := by
  cases a with
  | none => exact List.nil_sublist _
  | some a => exact .refl _

theorem keys_members (time : Moment) (r : Record) :
    (Entries.keys (r.members time)).Sublist memberNames := by
  have hcontext : (Entries.keys r.context.members).Sublist ["post_id", "block_name"] := by
    rw [Context.members, Entries.keys, List.map_append]
    exact (keys_optional "post_id" .int _).append (keys_optional "block_name" .str _)
  rw [Record.members, Entries.keys, List.map_append, List.map_append]
  exact ((List.Sublist.refl ["timestamp", "level", "logger", "message"]).append hcontext).append
    (keys_optional "exception" (fun raised : Raised => .str raised.describe) _)

theorem toldBy_members (time : Moment) (r : Record) : r.ToldBy time (r.members time) := by
  have hdistinct : memberNames.Nodup := by decide
  have hnames := keys_members time r
  obtain ⟨level, logger, message, ⟨postId, blockName⟩, raised⟩ := r
  have hlevel (l : Level) :
      some (Value.str (Level.name level)) = some (.str l.name) ↔ l = level := by
    rw [Option.some_inj, Value.str.injEq, Level.name_injective.eq_iff, eq_comm]
  refine ⟨hdistinct.sublist hnames, hnames.subset, rfl, hlevel, rfl, rfl, ?_, ?_, ?_⟩ <;>
    cases postId <;> cases blockName <;> cases raised <;> rfl

theorem isFlat_members (time : Moment) (r : Record) : ∀ m ∈ r.members time, Json.IsFlat m.2 := by
  obtain ⟨level, logger, message, ⟨postId, blockName⟩, raised⟩ := r
  cases postId <;> cases blockName <;> cases raised <;>
    simp [Record.members, Context.members, Json.IsFlat.str, Json.IsFlat.int]

theorem isJson_members (h : r.isWritable) (time : Moment) :
    (Value.object (r.members time)).isJson := by
  refine Value.isJson_object.mpr ⟨(toldBy_members time r).names, ?_⟩
  obtain ⟨level, logger, message, ⟨postId, blockName⟩, raised⟩ := r
  have hstr : ∀ s : String, (Value.str s).isJson := fun _ => rfl
  have hpost : ∀ n ∈ postId, (Value.int n).isJson := by
    rintro n rfl
    exact h
  cases postId <;> cases blockName <;> cases raised <;>
    simp [Record.members, Context.members, hstr, hpost]

/-- The members of a record are written exactly if its post number is not too long. -/
theorem exists_written_iff (time : Moment) (r : Record) :
    (∃ text, Json.write ⟨.ascii, none⟩ (.object (r.members time)) = .ok text) ↔ r.isWritable := by
  constructor
  · rintro ⟨text, htext⟩
    obtain ⟨-, -, hjson⟩ := Json.flat_write (isFlat_members time r) htext
    have hfind := (toldBy_members time r).postId
    rw [Record.isWritable]
    cases hpost : r.context.postId with
    | none => rfl
    | some n =>
      rw [hpost] at hfind
      exact hjson _ (Entries.mem_of_find? hfind)
  · intro h
    obtain ⟨text, htext, -⟩ := Json.read_write ⟨.ascii, none⟩ (isJson_members h time)
      (show [].all Json.isSpace from rfl)
    exact ⟨text, htext⟩

/-- What has been written of a record is one line, and is read back as the members of the record. -/
structure Record.IsLine (r : Record) (time : Moment) (line : String) : Prop where
  nonempty : line ≠ ""
  single : Text.isSingleLine line
  read : Json.read line = .ok (.object (r.members time))

theorem isLine_of_written {text : String}
    (h : Json.write ⟨.ascii, none⟩ (.object (r.members time)) = .ok text) : r.IsLine time text := by
  obtain ⟨hplain, hne, -⟩ := Json.flat_write (isFlat_members time r) h
  refine ⟨hne, Text.isSingleLine_of_isPlainAscii hplain, ?_⟩
  have hwritable := (exists_written_iff time r).mp ⟨text, h⟩
  obtain ⟨text', htext', hread⟩ := Json.read_write ⟨.ascii, none⟩ (isJson_members hwritable time)
    (show [].all Json.isSpace from rfl)
  rw [h] at htext'
  cases htext'
  exact (congrArg Json.read (String.append_empty (s := text)).symm).trans hread

/-- A record made at some time has a line exactly if the time is in the calendar and the post number
is not too long. -/
def HasLine (created : Binary64) (r : Record) : Prop :=
  (Moment.ofSeconds? created).isSome ∧ r.context.postId.all Text.fitsDigitLimit

instance (created : Binary64) (r : Record) : Decidable (HasLine created r) :=
  inferInstanceAs (Decidable (_ ∧ _))

theorem jsonLine_eq_ok {created : Binary64} {line : String} : jsonLine created r = .ok line ↔
    ∃ time, Moment.ofSeconds? created = some time ∧
      Json.write ⟨.ascii, none⟩ (.object (r.members time)) = .ok line := by
  rw [jsonLine, madeAt]
  cases Moment.ofSeconds? created with
  | none => simp [Bind.bind, Except.bind]
  | some time =>
    simp only [Option.some.injEq, exists_eq_left']
    change Except.mapError _ (Json.write _ _) = _ ↔ _
    generalize Json.write ⟨.ascii, none⟩ (.object (r.members time)) = written
    cases written with
    | ok text => constructor <;> (intro h; cases h; rfl)
    | error e => constructor <;> (intro h; cases h)

theorem exists_jsonLine_iff {created : Binary64} :
    (∃ line, jsonLine created r = .ok line) ↔ HasLine created r := by
  simp only [jsonLine_eq_ok, HasLine, Option.isSome_iff_exists]
  constructor
  · rintro ⟨line, time, htime, hline⟩
    exact ⟨⟨time, htime⟩, (exists_written_iff time r).mp ⟨line, hline⟩⟩
  · rintro ⟨⟨time, htime⟩, hpost⟩
    obtain ⟨line, hline⟩ := (exists_written_iff time r).mpr hpost
    exact ⟨line, time, htime, hline⟩

/-- Lines for programs are one for each record, and each is read back as what its record says.
Joined by feeds, they are the lines of the text, wherever Unicode has line boundaries. A record has
no line if its time is not in the calendar or its post number has too many digits, and only then. -/
theorem jsonLines_framed {records : List (Binary64 × Record)} (h : ∀ r ∈ records, HasLine r.1 r.2) :
    (∀ created r, (∃ line, jsonLine created r = .ok line) ↔ HasLine created r) ∧
    ∃ lines, records.mapM (fun r => jsonLine r.1 r.2) = .ok lines ∧
      lines.length = records.length ∧
      Text.splitLines (String.intercalate "\n" lines) = lines ∧
      List.Forall₂ (fun r line => ∃ time members, Moment.ofSeconds? r.1 = some time ∧
        Json.read line = .ok (.object members) ∧ r.2.ToldBy time members) records lines := by
  refine ⟨fun _ _ => exists_jsonLine_iff, ?_⟩
  obtain ⟨lines, hlines, hall⟩ : ∃ lines, records.mapM (fun r => jsonLine r.1 r.2) = .ok lines ∧
      List.Forall₂ (fun r line => jsonLine r.1 r.2 = .ok line) records lines := by
    induction records with
    | nil => exact ⟨[], rfl, .nil⟩
    | cons r rest ih =>
      obtain ⟨hr, hrest⟩ := List.forall_mem_cons.mp h
      obtain ⟨line, hline⟩ := exists_jsonLine_iff.mpr hr
      obtain ⟨lines, hlines, hall⟩ := ih hrest
      exact ⟨line :: lines, by rw [List.mapM_cons, hline, hlines]; rfl, .cons hline hall⟩
  refine ⟨lines, hlines, hall.length_eq.symm, Text.splitLines_intercalate fun line hline => ?_, ?_⟩
  · obtain ⟨i, hi, rfl⟩ := List.mem_iff_getElem.mp hline
    obtain ⟨time, -, hwritten⟩ := jsonLine_eq_ok.mp (hall.get (hall.length_eq ▸ hi) hi)
    exact ⟨(isLine_of_written hwritten).nonempty, (isLine_of_written hwritten).single⟩
  · refine hall.imp fun r line hline => ?_
    obtain ⟨time, htime, hwritten⟩ := jsonLine_eq_ok.mp hline
    exact ⟨time, _, htime, (isLine_of_written hwritten).read, toldBy_members time r.2⟩

/-- A record about post 0 and a block with an empty name, whose texts have line boundaries and
quotes, and a record about nothing. -/
def brokenRecords : List (Binary64 × Record) :=
  [(.ofInt 0, ⟨Level.info, "a\nb", "\"one\r\ntwo\u2028three\u0085", ⟨some 0, some ""⟩, none⟩),
    (.ofInt 1700000000, ⟨Level.error, "", "\x00", .none, some ⟨"ValueError", "four\x0bfive"⟩⟩)]

theorem brokenRecords_framed :
    (∀ r ∈ brokenRecords, HasLine r.1 r.2) ∧
    ∃ lines, brokenRecords.mapM (fun r => jsonLine r.1 r.2) = .ok lines ∧ lines.length = 2 ∧
      Text.splitLines (String.intercalate "\n" lines) = lines ∧
      List.Forall₂ (fun r line => ∃ time members, Moment.ofSeconds? r.1 = some time ∧
        Json.read line = .ok (.object members) ∧ r.2.ToldBy time members) brokenRecords lines := by
  have hlines : ∀ r ∈ brokenRecords, HasLine r.1 r.2 := by decide +kernel
  exact ⟨hlines, (jsonLines_framed hlines).2⟩

/-- A record of the year 31690708, and one about a post whose number has 4301 digits. -/
def lineless : List (Binary64 × Record) :=
  [(.ofInt 1000000000000000, ⟨Level.info, "", "x", .none, none⟩),
    (.ofInt 0, ⟨Level.info, "", "x", ⟨some (10 ^ 4300), none⟩, none⟩)]

theorem lineless_unframed :
    lineless.map (fun r => jsonLine r.1 r.2) =
      [.error .noMoment, .error (.unwritable .tooManyDigits)] := by
  decide +kernel

end Log
end EditorBlocks
