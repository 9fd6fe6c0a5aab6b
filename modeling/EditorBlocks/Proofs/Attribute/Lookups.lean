import EditorBlocks.Sourcing.Blocks
/-! Metadata that tells the same values: resolution asks it for nothing else. -/

namespace EditorBlocks

namespace Metadata
variable {m n : Metadata} {post post' : Int} {key key' : String} {v : Value}

/-- The value of a post under a key, where null stands for none. -/
def tells (m : Metadata) (post : Int) (key : String) : Value := (m.find? post key).getD .null

/-- Null is told of an unknown post, of a key that the post does not have, and of a stored null. -/
theorem tells_isNull_iff : (m.tells post key).isNull ↔
    Entries.find? post m.posts = none ∨ m.find? post key = none ∨
      m.find? post key = some .null := by
  rw [tells, find?]
  cases Entries.find? post m.posts with
  | none => simp [Value.isNull]
  | some values =>
    cases h : Entries.find? key values with
    | none => simp [h, Value.isNull]
    | some v => cases v <;> simp [h, Value.isNull]

/-- The same values are told, whatever is asked for. A post whose number cannot be written has the
same keys besides, since it is a fault to ask it for another one. -/
structure TellsAlike (m n : Metadata) : Prop where
  values : ∀ post key, m.tells post key = n.tells post key
  keys : ∀ post key, Text.fitsDigitLimit post = false →
    (m.find? post key).isSome = (n.find? post key).isSome

theorem TellsAlike.refl (m : Metadata) : TellsAlike m m := ⟨fun _ _ => rfl, fun _ _ _ => rfl⟩

theorem TellsAlike.symm (h : TellsAlike m n) : TellsAlike n m :=
  ⟨fun post key => (h.values post key).symm, fun post key hpost => (h.keys post key hpost).symm⟩

theorem TellsAlike.trans {o : Metadata} (h : TellsAlike m n) (h' : TellsAlike n o) :
    TellsAlike m o where
  values post key := (h.values post key).trans (h'.values post key)
  keys post key hpost := (h.keys post key hpost).trans (h'.keys post key hpost)

/-- What comes of asking a post for a key: a fault, if it does not have the key and its number cannot
be written. -/
def asked (m : Metadata) (post : Int) (key : String) : Except Fault Unit :=
  if (m.find? post key).isSome then .ok () else (postText post).map fun _ => ()

theorem asked_of_fits (h : Text.fitsDigitLimit post) : m.asked post key = .ok () := by
  rw [asked, postText_of_fits h]
  split <;> rfl

theorem asked_eq_ok_iff (h : Text.fitsDigitLimit post = false) :
    m.asked post key = .ok () ↔ (m.find? post key).isSome := by
  rw [asked, postText_of_not_fits h]
  split
  · rename_i hsome
    exact iff_of_true rfl hsome
  · rename_i hnone
    exact iff_of_false (fun h => by cases h) hnone

/-- Nothing is told where it is a fault to ask. -/
theorem tells_of_not_asked (h : m.asked post key ≠ .ok ()) : m.tells post key = .null := by
  cases hf : m.find? post key with
  | none => rw [tells, hf, Option.getD_none]
  | some v => exact absurd (if_pos (by rw [hf]; rfl)) h

theorem TellsAlike.asked_eq (h : TellsAlike m n) (post : Int) (key : String) :
    m.asked post key = n.asked post key := by
  cases hpost : Text.fitsDigitLimit post with
  | true => rw [asked_of_fits hpost, asked_of_fits hpost]
  | false => rw [asked, asked, h.keys post key hpost]

theorem find?_update_self (h : (m.find? post key).isSome) :
    (m.update post key v).find? post key = some v := by
  unfold find? at h
  cases hp : Entries.find? post m.posts with
  | none => simp [hp] at h
  | some values => simp [update, hp, find?, Entries.find?_put_self]

theorem find?_update_ne (h : post' ≠ post ∨ key' ≠ key) :
    (m.update post key v).find? post' key' = m.find? post' key' := by
  unfold update
  cases hp : Entries.find? post m.posts with
  | none => rfl
  | some values =>
    by_cases hpost : post' = post
    · have hkey : key' ≠ key := h.resolve_left (not_not_intro hpost)
      rw [hpost]
      simp [find?, Entries.find?_put_self, Entries.find?_put_ne hkey, hp]
    · simp [find?, Entries.find?_put_ne hpost]

theorem isSome_find?_of_tells (h : m.tells post key ≠ .null) : (m.find? post key).isSome := by
  cases hf : m.find? post key with
  | none => simp [tells, hf] at h
  | some w => rfl

theorem isSome_find?_update (h : (m.find? post key).isSome) :
    ((m.update post key v).find? post' key').isSome = (m.find? post' key').isSome := by
  by_cases heq : post' = post ∧ key' = key
  · rw [heq.1, heq.2, find?_update_self h, h]
    rfl
  · rw [find?_update_ne (Decidable.not_and_iff_not_or_not.mp heq)]

theorem tells_update (h : m.tells post key ≠ .null) :
    (m.update post key v).tells post' key' =
      if post' = post ∧ key' = key then v else m.tells post' key' := by
  have hsome := isSome_find?_of_tells h
  unfold tells
  by_cases heq : post' = post ∧ key' = key
  · rw [if_pos heq, heq.1, heq.2, find?_update_self hsome]
    rfl
  · rw [if_neg heq, find?_update_ne (Decidable.not_and_iff_not_or_not.mp heq)]

theorem TellsAlike.update (h : TellsAlike m n) (hm : m.tells post key ≠ .null) :
    TellsAlike (m.update post key v) (n.update post key v) := by
  have hn : n.tells post key ≠ .null := by rwa [← h.values post key]
  refine ⟨fun post' key' => ?_, fun post' key' hpost => ?_⟩
  · rw [tells_update hm, tells_update hn, h.values post' key']
  · rw [isSome_find?_update (isSome_find?_of_tells hm), isSome_find?_update (isSome_find?_of_tells hn),
      h.keys post' key' hpost]

end Metadata

section Resolve
open Metadata
variable {m n : Metadata} {postId : Option Int}

namespace AttributeRule

theorem outcome_noteAbsent (post : Int) (key : String) :
    (noteAbsent post key).outcome = (postText post).map fun _ => () := by
  rw [noteAbsent, Log.Noted.outcome_bind, Log.Noted.outcome_ofExcept]
  cases postText post <;> rfl

theorem outcome_metadataValue (m : Metadata) (post : Int) (key : String) :
    (metadataValue ⟨m, some post⟩ (some key)).outcome = (m.asked post key).map fun _ =>
      if (m.tells post key).isNull then none else some (.stored post key) := by
  unfold metadataValue tells asked
  cases hf : m.find? post key with
  | none =>
    simp only [hf, Log.Noted.outcome_bind, outcome_noteAbsent]
    cases postText post <;> rfl
  | some v => cases v <;> simp [hf, Value.isNull, Except.map]

theorem metadataValue_congr (h : TellsAlike m n) (key : Option String) :
    (metadataValue ⟨m, postId⟩ key).outcome = (metadataValue ⟨n, postId⟩ key).outcome := by
  cases postId with
  | none => rfl
  | some post =>
    cases key with
    | none => rfl
    | some key =>
      rw [outcome_metadataValue, outcome_metadataValue, h.asked_eq post key, h.values post key]

theorem find_congr (h : TellsAlike m n) (rule : AttributeRule) (s : Scope) :
    (rule.find ⟨m, postId⟩ s).outcome = (rule.find ⟨n, postId⟩ s).outcome := by
  obtain ⟨source, selector, attributeName, multiline, metaKey, fallback, extras⟩ := rule
  by_cases hs : source = some .metadata
  · subst hs
    exact metadataValue_congr h metaKey
  · cases source with
    | none => rfl
    | some source =>
      cases source with
      | metadata => exact absurd rfl hs
      | _ => rfl

end AttributeRule

namespace AttributeDefinition

mutual
theorem resolve_congr (h : TellsAlike m n) : ∀ (d : AttributeDefinition) (s : Scope),
    (d.resolve ⟨m, postId⟩ s).outcome = (d.resolve ⟨n, postId⟩ s).outcome
  | mk rule query, s => by
    rw [resolve, resolve]
    split
    · simp only [Log.Noted.outcome_bind, Log.Noted.outcome_mapM, resolveQuery_congr h query]
    · simp only [Log.Noted.outcome_bind, AttributeRule.find_congr h rule]

theorem resolveQuery_congr (h : TellsAlike m n) :
    ∀ (query : Option (List (String × AttributeDefinition))) (s : Scope),
    (resolveQuery ⟨m, postId⟩ s query).outcome = (resolveQuery ⟨n, postId⟩ s query).outcome
  | none, s => rfl
  | some items, s => by
    rw [resolveQuery, resolveQuery, resolveItems_congr h items s]

theorem resolveItems_congr (h : TellsAlike m n) :
    ∀ (items : List (String × AttributeDefinition)) (s : Scope),
    (resolveItems ⟨m, postId⟩ s items).outcome = (resolveItems ⟨n, postId⟩ s items).outcome
  | [], s => rfl
  | item :: rest, s => by
    simp only [resolveItems, Log.Noted.outcome_bind, resolveItem_congr h item s,
      resolveItems_congr h rest s]

theorem resolveItem_congr (h : TellsAlike m n) : ∀ (item : String × AttributeDefinition) (s : Scope),
    (resolveItem ⟨m, postId⟩ s item).outcome = (resolveItem ⟨n, postId⟩ s item).outcome
  | (name, d), s => by
    simp only [resolveItem, Log.Noted.outcome_bind, resolve_congr h d s]
end

end AttributeDefinition

namespace SourcingPlan

theorem sourceEach_congr (h : TellsAlike m n) (s : Scope)
    (definitions : List (String × AttributeDefinition)) (attributes : List (String × Held)) :
    (sourceEach ⟨m, postId⟩ s definitions attributes).outcome =
      (sourceEach ⟨n, postId⟩ s definitions attributes).outcome := by
  induction definitions generalizing attributes with
  | nil => rfl
  | cons e rest ih =>
    obtain ⟨name, d⟩ := e
    unfold sourceEach
    split
    · rw [Log.Noted.outcome_bind, Log.Noted.outcome_bind, AttributeDefinition.resolve_congr h d]
      congr 1
      funext value?
      cases value? with
      | none => exact ih attributes
      | some value => exact ih _
    · split
      · split
        · exact ih attributes
        · exact ih _
      · exact ih attributes

end SourcingPlan

end Resolve

end EditorBlocks
