import EditorBlocks.Attribute.Resolution
/-! Basic sources: properties are read as attributes are, and rich text as HTML is that has no lines.
Definitions that use the basic sources instead resolve as before, with the same notes. -/

namespace EditorBlocks

namespace AttributeRule
variable {rule : AttributeRule} {data : PostData} {s : Scope}

/-- The rule with a basic source. Rich text never is in lines, whatever its rule says. -/
def basic (rule : AttributeRule) : AttributeRule :=
  match rule.source with
  | some .property => { rule with source := some .attr }
  | some .richText => { rule with source := some .html, multiline := none }
  | _ => rule

@[simp] theorem basic_selector : rule.basic.selector = rule.selector := by
  unfold basic
  split <;> rfl

@[simp] theorem basic_fallbackValue : rule.basic.fallbackValue = rule.fallbackValue := by
  unfold basic
  split <;> rfl

@[simp] theorem basic_source_isSome : rule.basic.source.isSome = rule.source.isSome := by
  unfold basic
  split <;> simp_all

theorem basic_source_eq_query : rule.basic.source = some .query ↔ rule.source = some .query := by
  unfold basic
  split <;> simp_all

/-- A scope without a match has no HTML, so that it makes no difference to ask for one first. -/
theorem find_basic (rule : AttributeRule) (data : PostData) (s : Scope) :
    rule.basic.find data s = rule.find data s := by
  obtain ⟨source, selector, attributeName, multiline, metaKey, fallback, extras⟩ := rule
  unfold basic
  split
  · rename_i hsource
    cases hsource
    rfl
  · rename_i hsource
    cases hsource
    refine bind_congr fun matched => ?_
    split
    · rename_i hcount
      rw [Scope.innerHtml?, Scope.first?, List.eq_nil_of_length_eq_zero hcount]
      rfl
    · rfl
  · rfl

end AttributeRule

namespace AttributeDefinition

mutual
/-- The definition with basic sources, at any depth of its queries. -/
def basic : AttributeDefinition → AttributeDefinition
  | mk rule query => mk rule.basic (basicQuery query)

def basicQuery :
    Option (List (String × AttributeDefinition)) → Option (List (String × AttributeDefinition))
  | none => none
  | some items => some (basicItems items)

def basicItems : List (String × AttributeDefinition) → List (String × AttributeDefinition)
  | [] => []
  | item :: rest => basicItem item :: basicItems rest

def basicItem : String × AttributeDefinition → String × AttributeDefinition
  | (name, d) => (name, basic d)
end

mutual
/-- By basic sources a definition finds the same value, or fails with the same error. -/
theorem resolve_basic (data : PostData) : ∀ (d : AttributeDefinition) (s : Scope),
    d.basic.resolve data s = d.resolve data s
  | mk rule query, s => by
    have hquery := resolveQuery_basic data query
    rw [basic, resolve, resolve]
    simp only [AttributeRule.basic_source_eq_query, AttributeRule.basic_selector,
      AttributeRule.basic_fallbackValue, AttributeRule.find_basic, hquery]

theorem resolveQuery_basic (data : PostData) :
    ∀ (query : Option (List (String × AttributeDefinition))) (m : Scope),
      resolveQuery data m (basicQuery query) = resolveQuery data m query
  | none, _ => rfl
  | some items, m => resolveItems_basic data items m

theorem resolveItems_basic (data : PostData) :
    ∀ (items : List (String × AttributeDefinition)) (m : Scope),
      resolveItems data m (basicItems items) = resolveItems data m items
  | [], m => rfl
  | item :: rest, m => by
    rw [basicItems, resolveItems, resolveItems, resolveItem_basic data item m,
      resolveItems_basic data rest m]

theorem resolveItem_basic (data : PostData) :
    ∀ (item : String × AttributeDefinition) (m : Scope),
      resolveItem data m (basicItem item) = resolveItem data m item
  | (name, d), m => by
    rw [basicItem, resolveItem, resolveItem, resolve_basic data d m]
end

end AttributeDefinition
end EditorBlocks
