/-!
Entries: a list of keys with values, in the order in which the keys first came. Main definition:
`put`, which replaces in place or appends.
-/

namespace EditorBlocks.Entries
variable {κ α β : Type} [DecidableEq κ]

def keys (es : List (κ × α)) : List κ := es.map Prod.fst

def find? (k : κ) : List (κ × α) → Option α
  | [] => none
  | (k', v) :: rest => if k' = k then some v else find? k rest

def has (k : κ) (es : List (κ × α)) : Bool := (find? k es).isSome

/-- A key that is there keeps its place. -/
def put (k : κ) (v : α) : List (κ × α) → List (κ × α)
  | [] => [(k, v)]
  | (k', v') :: rest => if k' = k then (k, v) :: rest else (k', v') :: put k v rest

def erase (k : κ) (es : List (κ × α)) : List (κ × α) := es.filter fun e => e.1 ≠ k

/-- Entries put one after another: a repeated key has its first place and its last value. -/
def putAll (es : List (κ × α)) (new : List (κ × α)) : List (κ × α) :=
  new.foldl (fun acc e => put e.1 e.2 acc) es

def ofList (es : List (κ × α)) : List (κ × α) := putAll [] es

def mapValues (f : α → β) (es : List (κ × α)) : List (κ × β) := es.map fun e => (e.1, f e.2)

theorem find?_put_self (k : κ) (v : α) (es : List (κ × α)) : find? k (put k v es) = some v := by
  induction es with
  | nil => simp [put, find?]
  | cons e rest ih => simp only [put]; split <;> simp_all [find?]

theorem find?_put_ne {k k' : κ} (h : k' ≠ k) (v : α) (es : List (κ × α)) :
    find? k' (put k v es) = find? k' es := by
  induction es with
  | nil => simp [put, find?, Ne.symm h]
  | cons e rest ih => simp only [put]; split <;> grind [find?]

theorem keys_put_of_mem {k : κ} {v : α} {es : List (κ × α)} (h : k ∈ keys es) :
    keys (put k v es) = keys es := by
  induction es with
  | nil => simp [keys] at h
  | cons e rest ih => simp only [keys, put] at *; split <;> grind

theorem keys_put_of_not_mem {k : κ} {v : α} {es : List (κ × α)} (h : k ∉ keys es) :
    keys (put k v es) = keys es ++ [k] := by
  induction es with
  | nil => simp [put, keys]
  | cons e rest ih => simp only [keys, put] at *; split <;> grind

theorem put_of_not_mem {k : κ} {v : α} {es : List (κ × α)} (h : k ∉ keys es) :
    put k v es = es ++ [(k, v)] := by
  induction es with
  | nil => rfl
  | cons e rest ih => simp only [keys, put] at *; split <;> grind

theorem find?_eq_none_iff {k : κ} {es : List (κ × α)} : find? k es = none ↔ k ∉ keys es := by
  induction es with
  | nil => simp [find?, keys]
  | cons e rest ih => simp only [find?, keys] at *; split <;> simp_all [eq_comm]

theorem mem_of_find? {k : κ} {v : α} {es : List (κ × α)} (h : find? k es = some v) :
    (k, v) ∈ es := by
  induction es with
  | nil => cases h
  | cons e rest ih => simp only [find?] at h; split at h <;> grind

theorem find?_mapValues (f : α → β) (k : κ) (es : List (κ × α)) :
    find? k (mapValues f es) = (find? k es).map f := by
  induction es with
  | nil => rfl
  | cons e rest ih => simp only [mapValues, List.map_cons, find?] at *; split <;> simp_all

omit [DecidableEq κ] in
theorem keys_mapValues (f : α → β) (es : List (κ × α)) : keys (mapValues f es) = keys es := by
  simp [keys, mapValues]

theorem mapValues_put (f : α → β) (k : κ) (v : α) (es : List (κ × α)) :
    mapValues f (put k v es) = put k (f v) (mapValues f es) := by
  induction es with
  | nil => rfl
  | cons e rest ih => simp only [mapValues, List.map_cons, put] at *; split <;> simp_all

theorem has_mapValues (f : α → β) (k : κ) (es : List (κ × α)) :
    has k (mapValues f es) = has k es := by
  simp [has, find?_mapValues]

section Put
variable {k : κ} {v : α} {es : List (κ × α)}

theorem mem_of_mem_put {e : κ × α} (h : e ∈ put k v es) : e = (k, v) ∨ e ∈ es := by
  induction es with
  | nil => exact .inl (List.mem_singleton.mp h)
  | cons first rest ih =>
    rw [put] at h
    split at h
    · exact (List.mem_cons.mp h).imp_right (List.mem_cons_of_mem _)
    · rcases List.mem_cons.mp h with rfl | h
      · exact .inr List.mem_cons_self
      · exact (ih h).imp_right (List.mem_cons_of_mem _)

theorem nodup_put (h : (keys es).Nodup) : (keys (put k v es)).Nodup := by
  by_cases hk : k ∈ keys es
  · rwa [keys_put_of_mem hk]
  · rw [keys_put_of_not_mem hk]
    exact List.nodup_append.mpr ⟨h, List.pairwise_singleton _ k, fun a ha b hb => by
      rw [List.mem_singleton.mp hb]
      exact fun heq => hk (heq ▸ ha)⟩

theorem mem_of_mem_putAll (new : List (κ × α)) {e : κ × α} (h : e ∈ putAll es new) :
    e ∈ es ∨ e ∈ new := by
  induction new generalizing es with
  | nil => exact .inl h
  | cons first rest ih =>
    rcases ih h with h | h
    · rcases mem_of_mem_put h with rfl | h
      · exact .inr List.mem_cons_self
      · exact .inl h
    · exact .inr (List.mem_cons_of_mem _ h)

theorem mem_of_mem_ofList {e : κ × α} (h : e ∈ ofList es) : e ∈ es :=
  (mem_of_mem_putAll es h).resolve_left List.not_mem_nil

theorem nodup_putAll (new : List (κ × α)) (h : (keys es).Nodup) : (keys (putAll es new)).Nodup := by
  induction new generalizing es with
  | nil => exact h
  | cons first rest ih => exact ih (nodup_put h)

theorem nodup_ofList (es : List (κ × α)) : (keys (ofList es)).Nodup := nodup_putAll es List.nodup_nil

/-- Where no key is repeated, each entry is found under its key. -/
theorem find?_of_mem (h : (keys es).Nodup) {e : κ × α} (he : e ∈ es) : find? e.1 es = some e.2 := by
  induction es with
  | nil => exact absurd he List.not_mem_nil
  | cons first rest ih =>
    obtain ⟨hfirst, hrest⟩ := List.nodup_cons.mp h
    rw [find?]
    rcases List.mem_cons.mp he with rfl | he
    · rw [if_pos rfl]
    · have hne : first.1 ≠ e.1 := fun heq => hfirst (heq ▸ List.mem_map_of_mem he)
      rw [if_neg hne, ih hrest he]

end Put

/-- What is found under a key is the last value that was put there. -/
theorem find?_putAll (k : κ) (es new : List (κ × α)) : find? k (putAll es new) =
    ((new.findRev? fun e => e.1 = k).map Prod.snd).or (find? k es) := by
  induction new generalizing es with
  | nil => rfl
  | cons e rest ih =>
    have hcons : putAll es (e :: rest) = putAll (put e.1 e.2 es) rest := rfl
    rw [hcons, ih, List.findRev?]
    cases rest.findRev? fun e => e.1 = k with
    | some last => rfl
    | none =>
      by_cases h : e.1 = k
      · simp [h, find?_put_self]
      · simp [h, find?_put_ne (Ne.symm h)]

theorem find?_ofList (k : κ) (es : List (κ × α)) :
    find? k (ofList es) = (es.findRev? fun e => e.1 = k).map Prod.snd := by
  rw [ofList, find?_putAll, find?, Option.or_none]

/-- New keys come behind the others, each where it is put first. -/
theorem keys_putAll (es new : List (κ × α)) : keys (putAll es new) =
    keys es ++ ((keys new).filter fun k => k ∉ keys es).eraseDups := by
  induction new generalizing es with
  | nil => simp [putAll, keys]
  | cons e rest ih =>
    have hcons : putAll es (e :: rest) = putAll (put e.1 e.2 es) rest := rfl
    have hkeys : keys (e :: rest) = e.1 :: keys rest := rfl
    rw [hcons, ih, hkeys]
    by_cases h : e.1 ∈ keys es
    · rw [keys_put_of_mem h, List.filter_cons_of_neg (by simpa using h)]
    · rw [keys_put_of_not_mem h, List.filter_cons_of_pos (by simpa using h), List.eraseDups_cons,
        List.filter_filter, List.append_assoc, List.singleton_append]
      congr 3
      exact List.filter_congr fun k _ => by grind

theorem keys_ofList (es : List (κ × α)) : keys (ofList es) = (keys es).eraseDups := by
  rw [ofList, keys_putAll, List.filter_eq_self.mpr fun k _ => by simp [keys]]
  rfl

end EditorBlocks.Entries
