import EditorBlocks.Data.Yaml.Reader
import EditorBlocks.Proofs.Yaml.Escapes
/-! Texts without a value: they are malformed, an escape is too far, or some scalar has no value of its
kind. -/

namespace EditorBlocks.Yaml

/-- A node has a text of a kind to be read: a scalar in it, or a mapping that stands for one. -/
inductive Node.Spells : Node → Kind → String → Prop
  | scalar {kind : Kind} {text : String} : Spells (.scalar kind text) kind text
  | item {n : Node} {outer kind : Kind} {items : List Node} {text : String} (hn : n ∈ items)
    (h : Spells n kind text) : Spells (.sequence outer items) kind text
  | key {n v : Node} {outer kind : Kind} {entries : List (Node × Node)} {text : String}
    (hn : (n, v) ∈ entries) (h : Spells n kind text) : Spells (.mapping outer entries) kind text
  | value {n k : Node} {outer kind : Kind} {entries : List (Node × Node)} {text : String}
    (hn : (k, n) ∈ entries) (h : Spells n kind text) : Spells (.mapping outer entries) kind text
  | standing {kind : Kind} {entries : List (Node × Node)} {text : String}
    (h : scalarText? (.mapping kind entries) = some text) :
    Spells (.mapping kind entries) kind text

/-- What some texts of some kinds may spell. -/
abbrev Spelling := Kind → String → Prop

/-- The structure is malformed, or one of the texts has no value of its kind. -/
def FailsFor {α : Type} (spells : Spelling) (x : Except Problem α) : Prop :=
  ∀ p, x = .error p → p = .malformed ∨
    ∃ kind text, spells kind text ∧ scalarValue kind text = .error p

section FailsFor
variable {α β : Type} {spells others : Spelling} {x : Except Problem α}
  {f : α → Except Problem β}

theorem failsFor_ok (a : α) : FailsFor spells (.ok a : Except Problem α) := by
  intro _ h
  cases h

theorem failsFor_malformed : FailsFor spells (.error .malformed : Except Problem α) := by
  intro _ h
  cases h
  exact .inl rfl

theorem FailsFor.mono (h : FailsFor spells x) (hs : ∀ kind text, spells kind text → others kind text) :
    FailsFor others x := by
  intro p hp
  obtain hp | ⟨kind, text, hspells, hp⟩ := h p hp
  · exact .inl hp
  · exact .inr ⟨kind, text, hs kind text hspells, hp⟩

theorem FailsFor.bind (h : FailsFor spells x) (hf : ∀ a, FailsFor spells (f a)) :
    FailsFor spells (x >>= f) := by
  intro p hp
  cases x with
  | error e => exact h p (congrArg Except.error (Except.error.inj hp))
  | ok a => exact hf a p hp

end FailsFor

/-- What the nodes of a list spell. -/
def spelledIn (ns : List Node) : Spelling := fun kind text => ∃ n ∈ ns, n.Spells kind text

/-- What the keys and values of entries spell. -/
def spelledAmong (entries : List (Node × Node)) : Spelling := fun kind text =>
  ∃ e ∈ entries, e.1.Spells kind text ∨ e.2.Spells kind text

theorem failsFor_keyValue {spells : Spelling} (v : Value) : FailsFor spells (keyValue v) := by
  unfold keyValue
  split
  · exact failsFor_malformed
  · exact failsFor_malformed
  · exact failsFor_malformed
  · exact failsFor_ok _

theorem failsFor_scalarValue (kind : Kind) (text : String) :
    FailsFor (fun k t => k = kind ∧ t = text) (scalarValue kind text) :=
  fun _ h => .inr ⟨kind, text, ⟨rfl, rfl⟩, h⟩

/-- An entry fails for its parts, if all that is in them does. -/
theorem failsFor_gatherEntry_of {k v : Node} (hk : FailsFor k.Spells k.value)
    (hv : FailsFor v.Spells v.value)
    (hentries : ∀ kind entries, v = .mapping kind entries → FailsFor v.Spells (gather entries))
    (hitems : ∀ kind items, v = .sequence kind items → FailsFor v.Spells (mergedItems items)) :
    FailsFor (fun kind text => k.Spells kind text ∨ v.Spells kind text) (gatherEntry (k, v)) := by
  have hkey := hk.mono fun kind text => Or.inl (b := v.Spells kind text)
  have hvalue : ∀ {α : Type} {x : Except Problem α}, FailsFor v.Spells x →
      FailsFor (fun kind text => k.Spells kind text ∨ v.Spells kind text) x :=
    fun h => h.mono fun _ _ => .inr
  generalize he : (k, v) = e
  unfold gatherEntry
  split <;> cases he
  · exact (hvalue (hentries _ _ rfl)).bind fun g => failsFor_ok _
  · exact (hvalue (hitems _ _ rfl)).bind fun es => failsFor_ok _
  · exact failsFor_malformed
  · exact (hvalue hv).bind fun value => failsFor_ok _
  · exact hkey.bind fun key => (failsFor_keyValue key).bind fun key =>
      (hvalue hv).bind fun value => failsFor_ok _

/-- What is spelled among the entries of a mapping, it spells. -/
theorem Node.spells_of_among {outer kind : Kind} {entries : List (Node × Node)} {text : String}
    (h : spelledAmong entries kind text) : (Node.mapping outer entries).Spells kind text := by
  obtain ⟨⟨key, value⟩, he, h | h⟩ := h
  · exact .key he h
  · exact .value he h

theorem Node.spells_of_in {outer kind : Kind} {items : List Node} {text : String}
    (h : spelledIn items kind text) : (Node.sequence outer items).Spells kind text := by
  obtain ⟨n, hn, h⟩ := h
  exact .item hn h

/-- A sequence or a mapping of any kind fails for what is in it. -/
theorem failsFor_sequence {kind : Kind} {items : List Node}
    (hvalues : FailsFor (spelledIn items) (valuesOf items))
    (hpairs : FailsFor (spelledIn items) (pairsOf items)) :
    FailsFor (spelledIn items) (Node.sequence kind items).value := by
  cases kind with
  | sequence => exact hvalues.bind fun _ => failsFor_ok _
  | pairs => exact hpairs.bind fun _ => failsFor_ok _
  | _ => exact failsFor_malformed

/-- A mapping that can only stand for a scalar. -/
theorem failsFor_standing {kind : Kind} {entries : List (Node × Node)} {x : Except Problem Value}
    (hx : ∀ text, scalarText? (.mapping kind entries) = some text → x = scalarValue kind text)
    (hnone : scalarText? (.mapping kind entries) = none → x = .error .malformed) :
    FailsFor (Node.mapping kind entries).Spells x := by
  cases hscalar : scalarText? (.mapping kind entries) with
  | some text =>
    rw [hx text hscalar]
    exact (failsFor_scalarValue kind text).mono fun _ _ h => h.1 ▸ h.2 ▸ .standing hscalar
  | none =>
    rw [hnone hscalar]
    exact failsFor_malformed

theorem failsFor_mapping {kind : Kind} {entries : List (Node × Node)}
    (h : FailsFor (spelledAmong entries) (gather entries)) :
    FailsFor (Node.mapping kind entries).Spells (Node.mapping kind entries).value := by
  have hgather : FailsFor (Node.mapping kind entries).Spells (gather entries) :=
    h.mono fun _ _ => Node.spells_of_among
  cases kind with
  | mapping | set => exact hgather.bind fun _ => failsFor_ok _
  | _ =>
    exact hgather.bind fun _ => failsFor_standing (fun text htext => by simp only [htext])
      fun hnone => by simp only [hnone]

mutual
theorem failsFor_value : ∀ n : Node, FailsFor n.Spells n.value
  | .scalar kind text =>
    (failsFor_scalarValue kind text).mono fun _ _ h => h.1 ▸ h.2 ▸ .scalar
  | .sequence _ items =>
    (failsFor_sequence (failsFor_valuesOf items) (failsFor_pairsOf items)).mono
      fun _ _ => Node.spells_of_in
  | .mapping _ entries => failsFor_mapping (failsFor_gather entries)

theorem failsFor_valuesOf : ∀ ns : List Node, FailsFor (spelledIn ns) (valuesOf ns)
  | [] => failsFor_ok _
  | n :: rest => by
    have hrest : ∀ k t, spelledIn rest k t → spelledIn (n :: rest) k t :=
      fun _ _ ⟨m, hm, h⟩ => ⟨m, List.mem_cons_of_mem n hm, h⟩
    rw [valuesOf]
    refine ((failsFor_value n).mono fun _ _ h => ⟨n, List.mem_cons_self, h⟩).bind fun v => ?_
    exact ((failsFor_valuesOf rest).mono hrest).bind fun vs => failsFor_ok _

theorem failsFor_pairsOf : ∀ ns : List Node, FailsFor (spelledIn ns) (pairsOf ns)
  | [] => failsFor_ok _
  | .mapping kind [e] :: rest => by
    have hrest : ∀ k t, spelledIn rest k t → spelledIn (.mapping kind [e] :: rest) k t :=
      fun _ _ ⟨m, hm, h⟩ => ⟨m, List.mem_cons_of_mem _ hm, h⟩
    have he : ∀ k t, e.1.Spells k t ∨ e.2.Spells k t → spelledIn (.mapping kind [e] :: rest) k t :=
      fun _ _ h => ⟨_, List.mem_cons_self,
        Node.spells_of_among ⟨e, List.mem_singleton.mpr rfl, h⟩⟩
    rw [pairsOf]
    refine ((failsFor_pairOf e).mono he).bind fun v => ?_
    exact ((failsFor_pairsOf rest).mono hrest).bind fun vs => failsFor_ok _
  | .scalar _ _ :: _ => failsFor_malformed
  | .sequence _ _ :: _ => failsFor_malformed
  | .mapping _ [] :: _ => failsFor_malformed
  | .mapping _ (_ :: _ :: _) :: _ => failsFor_malformed

theorem failsFor_pairOf : ∀ e : Node × Node,
    FailsFor (fun k t => e.1.Spells k t ∨ e.2.Spells k t) (pairOf e)
  | (k, v) => by
    rw [pairOf]
    refine ((failsFor_value k).mono fun _ _ => .inl).bind fun key => ?_
    exact ((failsFor_value v).mono fun _ _ => .inr).bind fun value => failsFor_ok _

theorem failsFor_gather : ∀ entries : List (Node × Node),
    FailsFor (spelledAmong entries) (gather entries)
  | [] => failsFor_ok _
  | e :: rest => by
    have hrest : ∀ k t, spelledAmong rest k t → spelledAmong (e :: rest) k t :=
      fun _ _ ⟨m, hm, h⟩ => ⟨m, List.mem_cons_of_mem e hm, h⟩
    rw [gather]
    refine ((failsFor_gatherEntry e).mono fun _ _ h => ⟨e, List.mem_cons_self, h⟩).bind fun g => ?_
    exact ((failsFor_gather rest).mono hrest).bind fun gs => failsFor_ok _

theorem failsFor_gatherEntry : ∀ e : Node × Node,
    FailsFor (fun k t => e.1.Spells k t ∨ e.2.Spells k t) (gatherEntry e)
  | (k, .mapping _ entries) => by
    refine failsFor_gatherEntry_of (failsFor_value k) (failsFor_mapping (failsFor_gather entries))
      ?_ fun _ _ h => by cases h
    intro _ _ h
    cases h
    exact (failsFor_gather entries).mono fun _ _ => Node.spells_of_among
  | (k, .sequence _ items) => by
    refine failsFor_gatherEntry_of (failsFor_value k)
      ((failsFor_sequence (failsFor_valuesOf items) (failsFor_pairsOf items)).mono
        fun _ _ => Node.spells_of_in) (fun _ _ h => by cases h) ?_
    intro _ _ h
    cases h
    exact (failsFor_mergedItems items).mono fun _ _ => Node.spells_of_in
  | (k, .scalar kind text) =>
    failsFor_gatherEntry_of (failsFor_value k)
      ((failsFor_scalarValue kind text).mono fun _ _ h => h.1 ▸ h.2 ▸ .scalar)
      (fun _ _ h => by cases h) fun _ _ h => by cases h

theorem failsFor_mergedItems : ∀ ns : List Node, FailsFor (spelledIn ns) (mergedItems ns)
  | [] => failsFor_ok _
  | .mapping kind entries :: rest => by
    have hrest : ∀ k t, spelledIn rest k t → spelledIn (.mapping kind entries :: rest) k t :=
      fun _ _ ⟨m, hm, h⟩ => ⟨m, List.mem_cons_of_mem _ hm, h⟩
    have hfirst : ∀ k t, spelledAmong entries k t → spelledIn (.mapping kind entries :: rest) k t :=
      fun _ _ h => ⟨_, List.mem_cons_self, Node.spells_of_among h⟩
    rw [mergedItems]
    refine ((failsFor_gather entries).mono hfirst).bind fun g => ?_
    exact ((failsFor_mergedItems rest).mono hrest).bind fun es => failsFor_ok _
  | .scalar _ _ :: _ => failsFor_malformed
  | .sequence _ _ :: _ => failsFor_malformed
end

end EditorBlocks.Yaml
