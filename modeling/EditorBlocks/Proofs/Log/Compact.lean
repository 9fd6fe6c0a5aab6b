import EditorBlocks.Log.Line
import EditorBlocks.Proofs.Text.Boundary
/-! Log lines for people: what is quoted in them has no line boundary, so that only the name of a
block and the message can break a line. -/

namespace EditorBlocks

namespace Text

/-- No line boundary is printable. -/
theorem isLineBoundary_of_isPrintable {c : Char} (h : isPrintable c) :
    isLineBoundary c = false := by
  have hall : ∀ n ∈ [10, 11, 12, 13, 28, 29, 30, 0x85, 0x2028, 0x2029],
      (if n < 127 then decide (32 ≤ n)
        else (printableBoundaries.takeWhile (· ≤ n)).length % 2 == 0) = false := by decide +kernel
  rw [← Bool.not_eq_true]
  intro hc
  have hmem : c.toNat ∈ [10, 11, 12, 13, 28, 29, 30, 0x85, 0x2028, 0x2029] := by
    simp only [isLineBoundary, Bool.or_eq_true, Bool.and_eq_true, decide_eq_true_eq,
      beq_iff_eq] at hc
    simp only [List.mem_cons, List.not_mem_nil, or_false]
    omega
  exact Bool.false_ne_true ((hall c.toNat hmem).symm.trans h)

theorem all_quotedChar {quote : Char} (hquote : isLineBoundary quote = false) (c : Char) :
    (quotedChar quote c).all fun d => !isLineBoundary d := by
  have hdigits (d : Char) (hd : isLineBoundary d = false) (width : Nat) :
      ('\\' :: d :: hexDigits width c.toNat).all fun d => !isLineBoundary d := by
    rw [List.all_cons, List.all_cons, hd, all_of_isPlainAscii (all_isPlainAscii_hexDigits width _)]
    rfl
  unfold quotedChar
  refine all_ite (fun hsame => ?_) fun _ => all_ite (fun _ => rfl) fun _ => all_ite (fun _ => rfl)
    fun _ => all_ite (fun _ => rfl) fun _ => all_ite (fun hprintable => ?_) fun _ =>
      all_ite (fun _ => hdigits 'x' rfl 2) fun _ => all_ite (fun _ => hdigits 'u' rfl 4) fun _ =>
        hdigits 'U' rfl 8
  · have hc : isLineBoundary c = false := by
      rcases Bool.or_eq_true_iff.mp hsame with hsame | hsame
      · exact (eq_of_beq hsame).symm ▸ hquote
      · exact (eq_of_beq hsame).symm ▸ rfl
    simp [hc, show isLineBoundary '\\' = false from rfl]
  · simp [isLineBoundary_of_isPrintable hprintable]

/-- What is quoted is on one line. -/
theorem isSingleLine_quoted (s : String) : isSingleLine (quoted s) := by
  have hmark : isLineBoundary (quoteMark s.toList) = false := by
    unfold quoteMark
    split <;> rfl
  have hbody : (s.toList.flatMap (quotedChar (quoteMark s.toList))).all
      fun d => !isLineBoundary d := by
    rw [List.all_flatMap, List.all_eq_true]
    exact fun c _ => all_quotedChar hmark c
  rw [isSingleLine, quoted, String.toList_ofList, List.all_cons, List.all_append, hbody]
  simp [hmark]

theorem isSingleLine_toString (n : Int) : isSingleLine (toString n) :=
  isSingleLine_of_isPlainAscii (all_isPlainAscii_toString n)

theorem isSingleLine_toString_nat (n : Nat) : isSingleLine (toString n) := isSingleLine_toString n

end Text

theorem isSingleLine_padded (width n : Nat) : Text.isSingleLine (padded width n) := by
  rw [padded, Text.isSingleLine_append]
  refine ⟨Text.isSingleLine_iff.mpr fun c hc => ?_, Text.isSingleLine_toString_nat n⟩
  rw [String.toList_ofList] at hc
  rw [List.eq_of_mem_replicate hc]
  rfl

namespace Log

theorem isSingleLine_label (c : Context) :
    Text.isSingleLine c.label ↔ ∀ name ∈ c.blockName, Text.isSingleLine name := by
  have hempty : Text.isSingleLine "" := rfl
  have hopen : Text.isSingleLine "[" := rfl
  have hclose : Text.isSingleLine "] " := rfl
  have hspace : Text.isSingleLine " " := rfl
  have hpost : Text.isSingleLine "post " := rfl
  have hnumber (n : Int) : Text.isSingleLine n.repr := Text.isSingleLine_toString n
  have hjoined (s t : String) : String.intercalate " " [s, t] = s ++ " " ++ t := rfl
  have halone (s : String) : String.intercalate " " [s] = s := rfl
  obtain ⟨postId, blockName⟩ := c
  cases postId <;> cases blockName <;>
    simp [Context.label, Text.isSingleLine_append, hempty, hopen, hclose, hpost, hspace, hnumber,
      hjoined, halone]

/-- A line for people is one line exactly if the name of the block is, and the message. -/
theorem isSingleLine_compactLine (time : Moment) (r : Record) :
    Text.isSingleLine (compactLine time r) ↔
      (∀ name ∈ r.context.blockName, Text.isSingleLine name) ∧ Text.isSingleLine r.message := by
  have hclock : Text.isSingleLine time.clockSeconds := by
    have hcolon : Text.isSingleLine ":" := rfl
    simp only [Moment.clockSeconds, Text.isSingleLine_append, isSingleLine_padded, hcolon, and_self]
  have hsymbol : Text.isSingleLine (Level.symbol r.level) := by
    unfold Level.symbol
    split_ifs <;> rfl
  have hspace : Text.isSingleLine " " := rfl
  simp only [compactLine, Text.isSingleLine_append, hclock, hsymbol, hspace, isSingleLine_label,
    true_and]

end Log
end EditorBlocks
