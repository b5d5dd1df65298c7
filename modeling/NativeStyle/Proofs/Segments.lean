import NativeStyle.Proofs.Declarations
import NativeStyle.Proofs.Runs
import Mathlib.Data.List.ReduceOption

/-!
# Segments of a body

What stands between the semicolons of a body, said without the reader: a segment is a declaration
in normal form, written with any blanks around its parts, or it is none, for want of a colon, a
property or a value.

A segment has one reading (`segment_iff`), and every body is cut into segments in one way. So the
declarations of a body are those of its segments, however they are written.

Main results:
- `segment_iff` (a segment is read as what it is),
- `declarations_of_segments` (a body is read segment by segment),
- `declarations_segments` (declarations in normal form, their printed form, and all that may stand
  between them).
-/

namespace NativeStyle.Stylesheet

open Text (isBlank trim)

/-! ## Written declarations -/

/-- The declaration that a segment stands for, if it is one. -/
inductive Segment : Option Declaration → Text → Prop where
  /-- A property, a colon and a value, with blanks around either part. -/
  | written {d : Declaration} {a b x y : Text} : d.Normal → (∀ c ∈ a, isBlank c = true) →
      (∀ c ∈ b, isBlank c = true) → (∀ c ∈ x, isBlank c = true) → (∀ c ∈ y, isBlank c = true) →
      Segment (some d) (a ++ d.property ++ b ++ ':' :: (x ++ d.value ++ y))
  /-- Nothing parts a property from a value. -/
  | noColon {t : Text} : ':' ∉ t → Segment none t
  /-- There are only blanks in front of the first colon. -/
  | noProperty {front rest : Text} : (∀ c ∈ front, isBlank c = true) →
      Segment none (front ++ ':' :: rest)
  /-- There are only blanks behind the first colon. -/
  | noValue {front rest : Text} : ':' ∉ front → (∀ c ∈ rest, isBlank c = true) →
      Segment none (front ++ ':' :: rest)

theorem Segment.ofSegment?_eq {d? : Option Declaration} {t : Text} (h : Segment d? t) :
    Declaration.ofSegment? t = d? := by
  cases h with
  | @written d a b x y hd ha hb hx hy =>
    have ha' : ':' ∉ a := Text.notMem_of_blanks ha (by decide)
    have hb' : ':' ∉ b := Text.notMem_of_blanks hb (by decide)
    have hfront : ':' ∉ a ++ d.property ++ b := by simp [ha', hb', hd.colon_notMem]
    have hne : ¬(d.property = [] ∨ d.value = []) := not_or.2 ⟨hd.property_ne_nil, hd.value_ne_nil⟩
    rw [Declaration.ofSegment?_append_cons hfront, Text.trim_surrounded ha hb,
      Text.trim_surrounded hx hy, hd.trim_property, hd.trim_value, if_neg hne]
  | noColon hcolon => exact Declaration.ofSegment?_of_notMem hcolon
  | @noProperty front rest hfront =>
    have hcolon : ':' ∉ front := Text.notMem_of_blanks hfront (by decide)
    rw [Declaration.ofSegment?_append_cons hcolon, if_pos]
    exact Or.inl (Text.trim_eq_nil_of_blanks hfront)
  | noValue hfront hrest =>
    rw [Declaration.ofSegment?_append_cons hfront, if_pos]
    exact Or.inr (Text.trim_eq_nil_of_blanks hrest)

/-- Every text without a semicolon is a segment, and it is read as what it is. -/
theorem segment_iff {d? : Option Declaration} {t : Text} (hsemi : ';' ∉ t) :
    Segment d? t ↔ Declaration.ofSegment? t = d? := by
  refine ⟨Segment.ofSegment?_eq, ?_⟩
  rintro rfl
  by_cases hmem : ':' ∈ t
  · obtain ⟨front, rest, rfl, hcolon⟩ := List.eq_append_cons_of_mem hmem
    have hread := Declaration.ofSegment?_append_cons hcolon rest
    split at hread
    · next hempty =>
      rw [hread]
      rcases hempty with hnil | hnil
      · exact .noProperty (Text.trim_eq_nil_iff.1 hnil)
      · exact .noValue hcolon (Text.trim_eq_nil_iff.1 hnil)
    · obtain ⟨a, b, hfront, ha, hb⟩ := Text.exists_blanks_trim front
      obtain ⟨x, y, hrest, hx, hy⟩ := Text.exists_blanks_trim rest
      have hdeclared : ⟨trim front, trim rest⟩ ∈ declarations (front ++ ':' :: rest) := by
        rw [declarations_of_notMem hsemi, hread]
        exact List.mem_singleton_self _
      have hwritten := Segment.written (normal_of_mem_declarations _ hdeclared) ha hb hx hy
      rwa [← hfront, ← hrest, ← hread] at hwritten
  · rw [Declaration.ofSegment?_of_notMem hmem]
    exact .noColon hmem

/-! ## Bodies -/

/-- A body is cut at its semicolons. -/
theorem declarations_join {texts : List Text} (h : ∀ t ∈ texts, ';' ∉ t) :
    declarations (Text.join [';'] texts) = texts.filterMap Declaration.ofSegment? := by
  by_cases hne : texts = []
  · subst hne
    rfl
  · rw [declarations, Text.join, List.splitOn_intercalate ';' h hne]

/-- A body is read segment by segment. -/
theorem declarations_of_segments {ds? : List (Option Declaration)} {texts : List Text}
    (hsegments : List.Forall₂ Segment ds? texts) (hsemi : ∀ t ∈ texts, ';' ∉ t) :
    declarations (Text.join [';'] texts) = ds?.reduceOption := by
  rw [declarations_join hsemi]
  clear hsemi
  induction hsegments with
  | nil => rfl
  | @cons d? t ds? texts hsegment _ ih =>
    rw [List.filterMap_cons, hsegment.ofSegment?_eq, ih]
    cases d? <;> rfl

/-- Every body is made of segments. -/
theorem exists_segments (body : Text) :
    ∃ ds? texts, List.Forall₂ Segment ds? texts ∧ (∀ t ∈ texts, ';' ∉ t) ∧ texts ≠ [] ∧
      Text.join [';'] texts = body := by
  induction body using segments_induction with
  | last segment hsegment =>
    exact ⟨_, [segment], .cons ((segment_iff hsegment).2 rfl) .nil,
      List.forall_mem_singleton.2 hsegment, List.cons_ne_nil _ _, List.append_nil _⟩
  | next segment rest hsegment ih =>
    obtain ⟨ds?, texts, hsegments, hsemi, hne, rfl⟩ := ih
    refine ⟨_, segment :: texts, .cons ((segment_iff hsegment).2 rfl) hsegments,
      List.forall_mem_cons.2 ⟨hsegment, hsemi⟩, List.cons_ne_nil _ _, ?_⟩
    rw [Text.join_cons_of_ne_nil _ _ hne, List.append_assoc]
    rfl

/-- A declaration on one line is a segment. -/
theorem Declaration.Normal.segment_text {d : Declaration} (h : d.Normal) :
    Segment (some d) d.text := by
  rw [segment_iff h.semicolon_notMem_text]
  exact h.ofSegment?_text (List.forall_mem_nil _)

/-- **Segments.** Every declaration of a body is in normal form. A body of segments without
semicolons has the declarations that are written in them, in their order, and every body is made of
such segments. So the declarations of a body that are printed between semicolons are read back. -/
theorem declarations_segments :
    (∀ body, ∀ d ∈ declarations body, d.Normal) ∧
    (∀ (ds? : List (Option Declaration)) (texts : List Text), List.Forall₂ Segment ds? texts →
      (∀ t ∈ texts, ';' ∉ t) → declarations (Text.join [';'] texts) = ds?.reduceOption) ∧
    (∀ body, ∃ ds? texts, List.Forall₂ Segment ds? texts ∧ (∀ t ∈ texts, ';' ∉ t) ∧ texts ≠ [] ∧
      Text.join [';'] texts = body) ∧
    ∀ body, declarations (Text.join [';'] ((declarations body).map Declaration.text)) =
      declarations body := by
  refine ⟨fun body => normal_of_mem_declarations, fun _ _ => declarations_of_segments,
    exists_segments, ?_⟩
  intro body
  have hnormal : ∀ d ∈ declarations body, d.Normal := normal_of_mem_declarations
  generalize declarations body = ds at hnormal ⊢
  have hsegments : List.Forall₂ Segment (ds.map some) (ds.map Declaration.text) := by
    rw [List.forall₂_map_left_iff, List.forall₂_map_right_iff, List.forall₂_same]
    exact fun d hd => (hnormal d hd).segment_text
  rw [declarations_of_segments hsegments (semicolon_notMem_lines hnormal)]
  rw [List.reduceOption, List.filterMap_map, Function.id_comp, List.filterMap_some]

/-- A wide blank in front of a property, a segment without a colon, one without a property, a second
colon in a value, and nothing behind the last semicolon. -/
theorem declarations_segments_mixed :
    Declaration.Normal ⟨"--x".toList, "a:b".toList⟩ ∧
      List.Forall₂ Segment
        [some ⟨"color".toList, "red".toList⟩, none, none, some ⟨"--x".toList, "a:b".toList⟩, none]
        ["\u3000color :red\n".toList, "junk".toList, " : 0".toList, "--x:a:b".toList, []] ∧
      declarations "\u3000color :red\n;junk; : 0;--x:a:b;".toList =
        [⟨"color".toList, "red".toList⟩, ⟨"--x".toList, "a:b".toList⟩] := by
  have hsegment {d? : Option Declaration} {t : Text} (hsemi : ';' ∉ t)
      (h : Declaration.ofSegment? t = d?) : Segment d? t := (segment_iff hsemi).2 h
  have hsegments : List.Forall₂ Segment
      [some ⟨"color".toList, "red".toList⟩, none, none, some ⟨"--x".toList, "a:b".toList⟩, none]
      ["\u3000color :red\n".toList, "junk".toList, " : 0".toList, "--x:a:b".toList, []] :=
    .cons (hsegment (by decide) (by decide)) (.cons (hsegment (by decide) (by decide))
      (.cons (hsegment (by decide) (by decide)) (.cons (hsegment (by decide) (by decide))
        (.cons (hsegment (by decide) (by decide)) .nil))))
  have hread : declarations "\u3000color :red\n;junk; : 0;--x:a:b;".toList =
      [⟨"color".toList, "red".toList⟩, ⟨"--x".toList, "a:b".toList⟩] :=
    declarations_segments.2.1 _ _ hsegments (by decide)
  have hmem : ⟨"--x".toList, "a:b".toList⟩ ∈
      declarations "\u3000color :red\n;junk; : 0;--x:a:b;".toList := by
    rw [hread]
    decide
  exact ⟨declarations_segments.1 _ _ hmem, hsegments, hread⟩

end NativeStyle.Stylesheet
