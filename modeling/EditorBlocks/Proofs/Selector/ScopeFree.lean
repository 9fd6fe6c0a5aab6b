import EditorBlocks.Selector.Matching
/-! Selectors to which it does not matter what scope they are asked of. -/

namespace EditorBlocks

namespace Selector
variable {scope scope' : Location}

mutual
/-- Whether a condition asks, anywhere inside, for the scope. -/
def Condition.usesScope : Condition → Bool
  | .scope => true
  | .nthChild _ _ _ among => anyUsesScope among
  | .oneOf _ _ alternatives => anyUsesScope alternatives
  | _ => false

def conditionsUseScope : List Condition → Bool
  | [] => false
  | condition :: rest => condition.usesScope || conditionsUseScope rest

def Complex.usesScope : Complex → Bool
  | .compound conditions => conditionsUseScope conditions
  | .related conditions _ other => conditionsUseScope conditions || other.usesScope

def anyUsesScope : List Complex → Bool
  | [] => false
  | selector :: rest => selector.usesScope || anyUsesScope rest
end

mutual
theorem Condition.holds_congr : ∀ (c : Condition), c.usesScope = false →
    ∀ (htmlNames : Bool) (l : Location), c.holds scope htmlNames l = c.holds scope' htmlNames l
  | .scope, h => by cases h
  | .nthChild fromEnd cycle inside among, h => by
    intro htmlNames l
    rw [Condition.usesScope] at h
    cases among with
    | nil => simp only [Condition.holds]
    | cons first rest =>
      obtain ⟨hfirst, hrest⟩ := Bool.or_eq_false_iff.mp h
      simp only [Condition.holds, Complex.holds_congr first hfirst, anyHolds_congr rest hrest]
  | .oneOf negated inside alternatives, h => by
    intro htmlNames l
    rw [Condition.usesScope] at h
    simp only [Condition.holds, anyHolds_congr alternatives h]
  | .never, _ | .tag .., _ | .id _, _ | .hasClass _, _ | .withAttribute _, _ | .root, _
  | .empty, _ | .defined, _ | .textless, _ | .nthOfType .., _ | .language _, _ | .direction _, _
  | .containsText .., _ | .valueRange _, _ | .defaultSubmit, _ | .indeterminateRadio, _ => by
    intro htmlNames l
    simp only [Condition.holds]

theorem allHold_congr : ∀ (cs : List Condition), conditionsUseScope cs = false →
    ∀ (htmlNames : Bool) (l : Location), allHold scope htmlNames l cs = allHold scope' htmlNames l cs
  | [], _ => by
    intro htmlNames l
    simp only [allHold]
  | c :: rest, h => by
    intro htmlNames l
    obtain ⟨hc, hrest⟩ := Bool.or_eq_false_iff.mp h
    simp only [allHold, Condition.holds_congr c hc, allHold_congr rest hrest]

theorem Complex.holds_congr : ∀ (s : Complex), s.usesScope = false →
    ∀ (htmlNames : Bool) (l : Location), s.holds scope htmlNames l = s.holds scope' htmlNames l
  | .compound conditions, h => by
    intro htmlNames l
    rw [Complex.usesScope] at h
    simp only [Complex.holds, allHold_congr conditions h]
  | .related conditions relation other, h => by
    intro htmlNames l
    obtain ⟨hconditions, hother⟩ := Bool.or_eq_false_iff.mp h
    simp only [Complex.holds, allHold_congr conditions hconditions, Complex.holds_congr other hother]

theorem anyHolds_congr : ∀ (ss : List Complex), anyUsesScope ss = false →
    ∀ (htmlNames : Bool) (l : Location), anyHolds scope htmlNames l ss = anyHolds scope' htmlNames l ss
  | [], _ => by
    intro htmlNames l
    simp only [anyHolds]
  | s :: rest, h => by
    intro htmlNames l
    obtain ⟨hs, hrest⟩ := Bool.or_eq_false_iff.mp h
    simp only [anyHolds, Complex.holds_congr s hs, anyHolds_congr rest hrest]
end

end Selector

/-- Whether a list asks, anywhere in it, for the scope. -/
def SelectorList.usesScope (list : SelectorList) : Bool := Selector.anyUsesScope list.alternatives

theorem SelectorList.selects_congr {list : SelectorList} (h : list.usesScope = false)
    (scope scope' element : Location) : list.selects scope element = list.selects scope' element :=
  Selector.anyHolds_congr list.alternatives h list.htmlNames element

end EditorBlocks
