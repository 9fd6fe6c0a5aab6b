import EditorBlocks.Log.Record
/-!
Noted computations: an outcome together with the log records made on the way, which stay when the
computation fails.
-/

namespace EditorBlocks.Log

structure Noted (ε α : Type) where
  records : List Record
  outcome : Except ε α

namespace Noted
variable {ε α β : Type}

def bind (x : Noted ε α) (f : α → Noted ε β) : Noted ε β :=
  match x.outcome with
  | .error e => ⟨x.records, .error e⟩
  | .ok a => ⟨x.records ++ (f a).records, (f a).outcome⟩

instance : Monad (Noted ε) where
  pure a := ⟨[], .ok a⟩
  bind := bind

def note (r : Record) : Noted ε Unit := ⟨[r], .ok ()⟩

def ofExcept (outcome : Except ε α) : Noted ε α := ⟨[], outcome⟩

@[simp] theorem outcome_pure (a : α) : (pure a : Noted ε α).outcome = .ok a := rfl

@[simp] theorem outcome_ofExcept (x : Except ε α) : (ofExcept x).outcome = x := rfl

@[simp] theorem outcome_note (r : Record) : (note r : Noted ε Unit).outcome = .ok () := rfl

/-- Notes have no influence on outcomes. -/
@[simp] theorem outcome_bind (x : Noted ε α) (f : α → Noted ε β) :
    (x >>= f).outcome = x.outcome >>= fun a => (f a).outcome := by
  change (bind x f).outcome = _
  unfold bind
  cases h : x.outcome <;> rfl

theorem outcome_bind_eq_ok {x : Noted ε α} {f : α → Noted ε β} {b : β} :
    (x >>= f).outcome = .ok b ↔ ∃ a, x.outcome = .ok a ∧ (f a).outcome = .ok b := by
  rw [outcome_bind]
  cases hx : x.outcome with
  | error e => simp [Bind.bind, Except.bind]
  | ok a => simp [Bind.bind, Except.bind]

instance : LawfulMonad (Noted ε) := by
  refine LawfulMonad.mk' (Noted ε) ?_ ?_ ?_
  · intro α x
    change bind x _ = x
    obtain ⟨records, outcome⟩ := x
    cases outcome <;> simp [bind]
  · intro α β a f
    change bind _ f = f a
    simp [bind, pure]
  · intro α β γ x f g
    change bind (bind x f) g = bind x fun a => bind (f a) g
    obtain ⟨records, outcome⟩ := x
    cases outcome with
    | error e => rfl
    | ok a => cases h : (f a).outcome <;> simp [bind, h]

theorem outcome_mapM (f : α → Noted ε β) (as : List α) :
    (as.mapM f).outcome = as.mapM fun a => (f a).outcome := by
  induction as with
  | nil => rfl
  | cons a rest ih =>
    rw [List.mapM_cons, List.mapM_cons]
    simp only [outcome_bind, ih]
    rfl

/-- Each item of a list that is computed has come from a computation that succeeded. -/
theorem outcome_of_mem_mapM {f : α → Noted ε β} {as : List α} {bs : List β}
    (h : (as.mapM f).outcome = .ok bs) {b : β} (hb : b ∈ bs) :
    ∃ a ∈ as, (f a).outcome = .ok b := by
  induction as generalizing bs with
  | nil =>
    simp only [List.mapM_nil, outcome_pure, Except.ok.injEq] at h
    simp [← h] at hb
  | cons a rest ih =>
    rw [List.mapM_cons, outcome_bind_eq_ok] at h
    obtain ⟨c, hc, h⟩ := h
    obtain ⟨cs, hcs, h⟩ := outcome_bind_eq_ok.mp h
    simp only [outcome_pure, Except.ok.injEq] at h
    rw [← h, List.mem_cons] at hb
    rcases hb with rfl | hb
    · exact ⟨a, List.mem_cons_self, hc⟩
    · obtain ⟨d, hd, hf⟩ := ih hcs hb
      exact ⟨d, List.mem_cons_of_mem a hd, hf⟩

end Noted
end EditorBlocks.Log
