/-
Selectors that a markup file declares in its `class` and `id` attributes.

The reference is `extract_selectors`, here `selectors`; its patterns `CLASS_ATTR` and `ID_ATTR` are
one scan, `attributeValues`, for the name of either attribute.
-/
import StyleCompletion.Context
import StyleCompletion.Text.Search

namespace StyleCompletion

/-- `cs` without `start` at its start, if it starts so. -/
def dropStart? (start cs : List Char) : Option (List Char) :=
  if start.isPrefixOf cs then some (cs.drop start.length) else none

/-- The value before the next double quote, which has to stand on the same line, and the
text after that quote. -/
def quotedValue? : List Char → Option (List Char × List Char)
  | [] => none
  | c :: rest =>
      if c = '"' then some ([], rest)
      else if c = '\n' then none
      else (quotedValue? rest).map fun (value, after) => (c :: value, after)

/-- The value of the attribute `name` when the text starts with that attribute. -/
def attributeValue? (name cs : List Char) : Option (List Char × List Char) :=
  (dropStart? (name ++ ['=', '"']) cs).bind quotedValue?

theorem length_quotedValue? {cs value after : List Char}
    (h : quotedValue? cs = some (value, after)) : after.length < cs.length := by
  induction cs generalizing value with
  | nil => simp [quotedValue?] at h
  | cons c rest ih =>
      simp only [quotedValue?] at h
      split at h
      · simp only [Option.some.injEq, Prod.mk.injEq] at h
        simp [h.2]
      · split at h
        · simp at h
        · simp only [Option.map_eq_some_iff, Prod.mk.injEq, Prod.exists] at h
          obtain ⟨v, a, hva, _, rfl⟩ := h
          have := ih hva
          simp only [List.length_cons]
          omega

theorem length_attributeValue? {name cs value after : List Char}
    (h : attributeValue? name cs = some (value, after)) : after.length < cs.length := by
  simp only [attributeValue?, Option.bind_eq_some_iff, dropStart?] at h
  obtain ⟨rest, hrest, hvalue⟩ := h
  split at hrest
  · simp only [Option.some.injEq] at hrest
    have := length_quotedValue? hvalue
    rw [← hrest, List.length_drop] at this
    omega
  · simp at hrest

/-- The values of the attributes `name` that follow a blank, in order.  An attribute
inside the value of another one is not seen. -/
def valuesAfterBlanks (name : List Char) : List Char → List (List Char)
  | [] => []
  | c :: rest =>
      if Text.isBlank c then
        match _ : attributeValue? name rest with
        | some (value, after) => value :: valuesAfterBlanks name after
        | none => valuesAfterBlanks name rest
      else valuesAfterBlanks name rest
termination_by cs => cs.length
decreasing_by
  · have := length_attributeValue? ‹attributeValue? name rest = some (value, after)›
    simp only [List.length_cons]
    omega
  · simp
  · simp

/-- The values of the attributes `name` of a markup text, in order.  The attribute
follows a blank or starts the text: `textid="…"` is no `id`. -/
def attributeValues (name markup : List Char) : List (List Char) :=
  match attributeValue? name markup with
  | some (value, after) => value :: valuesAfterBlanks name after
  | none => valuesAfterBlanks name markup

/-- The distinct selectors of one kind in a markup text, in order of first appearance.
A value names several, separated by blanks. -/
def selectors (markup : String) (kind : SelectorKind) : List String :=
  let values := attributeValues kind.attribute.toList markup.toList
  Text.distinct ((values.flatMap Text.words).map String.ofList)

end StyleCompletion
