import NativeStyle.Text.Blank

/-!
# Declarations

The body of a rule is read as declarations, property and value with a colon between them. Every
semicolon ends a declaration, whatever brackets it stands in; the first colon ends the property.
What has no colon, no property or no value is passed over.

Main statement: `ne_nil_of_mem_declarations` (no part of a declaration is empty).
-/

namespace NativeStyle.Stylesheet

/-- A property and its value. -/
structure Declaration where
  property : Text
  value : Text
deriving DecidableEq, Repr

/-- A custom property is one whose name starts with two hyphens. -/
def Declaration.isCustom (d : Declaration) : Bool :=
  "--".toList.isPrefixOf d.property

/-- The declaration of a segment between semicolons. -/
def Declaration.ofSegment? (segment : Text) : Option Declaration :=
  (Text.cut? ':' segment).bind fun (property, value) =>
    if Text.trim property = [] ∨ Text.trim value = [] then none
    else some ⟨Text.trim property, Text.trim value⟩

/-- The declarations of a rule's body in source order. -/
def declarations (body : Text) : List Declaration :=
  (body.splitOn ';').filterMap Declaration.ofSegment?

/-- No part of a declaration is empty. -/
theorem ne_nil_of_mem_declarations {body : Text} {d : Declaration} (h : d ∈ declarations body) :
    d.property ≠ [] ∧ d.value ≠ [] := by
  obtain ⟨segment, -, hd⟩ := List.mem_filterMap.1 h
  simp only [Declaration.ofSegment?, Option.bind_eq_some_iff, Prod.exists] at hd
  obtain ⟨property, value, -, hd⟩ := hd
  split at hd
  · cases hd
  · next hne => cases hd; exact not_or.1 hne

end NativeStyle.Stylesheet
