import NativeStyle.Proofs.Trimming
import NativeStyle.Stylesheet.Declaration

/-!
# Reading declarations, and reading them back

A body is read semicolon by semicolon (`declarations_append`), so what is true of one segment is
true of all of them.

Main results:
- `normal_of_mem_declarations` (every declaration is in normal form: trimmed, and without the
  separators that were cut at),
- `count_declarations_le` (reading declarations adds no character),
- `declarations_trim` (blanks around a body do not count),
- `declarations_of_lines` (declarations in normal form that are written line by line are read
  back).
-/

namespace NativeStyle.Stylesheet

/-- The declaration on one line. -/
def Declaration.text (d : Declaration) : Text :=
  d.property ++ ':' :: ' ' :: d.value

/-- A property and a value as they can be read from a body. -/
structure Declaration.Normal (d : Declaration) : Prop where
  trim_property : Text.trim d.property = d.property
  property_ne_nil : d.property ≠ []
  colon_notMem : ':' ∉ d.property
  semicolon_notMem_property : ';' ∉ d.property
  trim_value : Text.trim d.value = d.value
  value_ne_nil : d.value ≠ []
  semicolon_notMem_value : ';' ∉ d.value

/-! ## Segments -/

theorem declarations_append (a b : Text) :
    declarations (a ++ ';' :: b) = declarations a ++ declarations b := by
  unfold declarations
  rw [List.splitOn_append_cons_self, List.filterMap_append]

theorem declarations_of_notMem {segment : Text} (h : ';' ∉ segment) :
    declarations segment = (Declaration.ofSegment? segment).toList := by
  unfold declarations
  rw [List.splitOn_eq_singleton h]
  cases hsegment : Declaration.ofSegment? segment <;> simp [hsegment]

/-- Whatever holds of the segments of a body holds of the body. -/
theorem segments_induction {P : Text → Prop} (last : ∀ segment, ';' ∉ segment → P segment)
    (next : ∀ segment rest, ';' ∉ segment → P rest → P (segment ++ ';' :: rest)) (body : Text) :
    P body := by
  induction hn : body.length using Nat.strongRecOn generalizing body with
  | ind n ih =>
    -- The first semicolon ends the first segment; what is behind it is shorter.
    by_cases hmem : ';' ∈ body
    · obtain ⟨segment, rest, rfl, hsegment⟩ := List.eq_append_cons_of_mem hmem
      apply next segment rest hsegment
      exact ih rest.length (by simp [← hn]; omega) rest rfl
    · exact last body hmem

theorem Declaration.ofSegment?_of_notMem {segment : Text} (h : ':' ∉ segment) :
    Declaration.ofSegment? segment = none := by
  rw [ofSegment?, Text.cut?_eq_none_iff.2 h, Option.bind_none]

/-- The first colon of a segment parts its property from its value. -/
theorem Declaration.ofSegment?_append_cons {front : Text} (h : ':' ∉ front) (rest : Text) :
    Declaration.ofSegment? (front ++ ':' :: rest) =
      if Text.trim front = [] ∨ Text.trim rest = [] then none
      else some ⟨Text.trim front, Text.trim rest⟩ := by
  have hcut : Text.cut? ':' (front ++ ':' :: rest) = some (front, rest) :=
    Text.cut?_eq_some_iff.2 ⟨rfl, h⟩
  rw [ofSegment?, hcut, Option.bind_some]

/-- A segment is a property and a value with a colon between them. -/
theorem Declaration.ofSegment?_eq_some {segment : Text} {d : Declaration}
    (h : Declaration.ofSegment? segment = some d) :
    ∃ property value : Text, segment = property ++ ':' :: value ∧ ':' ∉ property ∧
      d = ⟨Text.trim property, Text.trim value⟩ ∧ d.property ≠ [] ∧ d.value ≠ [] := by
  simp only [ofSegment?, Option.bind_eq_some_iff, Prod.exists] at h
  obtain ⟨property, value, hcut, h⟩ := h
  obtain ⟨hsegment, hcolon⟩ := Text.cut?_eq_some_iff.1 hcut
  split at h
  · cases h
  · next hne =>
    cases h
    obtain ⟨hproperty, hvalue⟩ := not_or.1 hne
    exact ⟨property, value, hsegment, hcolon, rfl, hproperty, hvalue⟩

private theorem normal_of_ofSegment? {segment : Text} {d : Declaration} (hsemi : ';' ∉ segment)
    (h : Declaration.ofSegment? segment = some d) : d.Normal := by
  obtain ⟨property, value, rfl, hcolon, rfl, hproperty, hvalue⟩ := Declaration.ofSegment?_eq_some h
  rw [List.mem_append, List.mem_cons, not_or, not_or] at hsemi
  -- Both parts are trimmed, so they hold nothing that the segment does not.
  have hsub (s : Text) : Text.trim s ⊆ s := (Text.trim_subtext s).subset
  exact {
    trim_property := Text.trim_trim property
    property_ne_nil := hproperty
    colon_notMem := fun hmem => hcolon (hsub property hmem)
    semicolon_notMem_property := fun hmem => hsemi.1 (hsub property hmem)
    trim_value := Text.trim_trim value
    value_ne_nil := hvalue
    semicolon_notMem_value := fun hmem => hsemi.2.2 (hsub value hmem) }

/-- Every declaration that is read is in normal form. -/
theorem normal_of_mem_declarations {body : Text} :
    ∀ d ∈ declarations body, d.Normal := by
  induction body using segments_induction with
  | last segment hsegment =>
    intro d hd
    rw [declarations_of_notMem hsegment, Option.mem_toList] at hd
    exact normal_of_ofSegment? hsegment hd
  | next segment rest hsegment ih =>
    intro d hd
    rw [declarations_append, declarations_of_notMem hsegment] at hd
    rcases List.mem_append.1 hd with hd | hd
    · exact normal_of_ofSegment? hsegment (Option.mem_toList.1 hd)
    · exact ih d hd

/-! ## Counting characters -/

/-- The texts of the declarations without what separates them. -/
def parts (ds : List Declaration) : Text :=
  ds.flatMap fun d => d.property ++ d.value

private theorem count_ofSegment?_le (c : Char) (segment : Text) :
    (parts (Declaration.ofSegment? segment).toList).count c ≤ segment.count c := by
  cases h : Declaration.ofSegment? segment with
  | none => exact Nat.zero_le _
  | some d =>
    obtain ⟨property, value, rfl, -, rfl, -, -⟩ := Declaration.ofSegment?_eq_some h
    -- What gets lost are the blanks around the parts and the colon between them.
    have hproperty := Text.count_trim_le c property
    have hvalue := Text.count_trim_le c value
    have hcolon : value.count c ≤ (':' :: value).count c := List.count_le_count_cons
    simp only [Option.toList_some, parts, List.flatMap_cons, List.flatMap_nil, List.append_nil,
      List.count_append]
    omega

/-- Reading declarations adds no character. -/
theorem count_declarations_le (c : Char) (body : Text) :
    (parts (declarations body)).count c ≤ body.count c := by
  induction body using segments_induction with
  | last segment hsegment =>
    rw [declarations_of_notMem hsegment]
    exact count_ofSegment?_le c segment
  | next segment rest hsegment ih =>
    have hfirst := count_ofSegment?_le c segment
    have hsemi : rest.count c ≤ (';' :: rest).count c := List.count_le_count_cons
    rw [declarations_append, declarations_of_notMem hsegment]
    unfold parts at hfirst ih ⊢
    rw [List.flatMap_append, List.count_append, List.count_append]
    omega

/-! ## Blanks around a body -/

/-- Blanks around a segment are trimmed with its property and its value. -/
private theorem ofSegment?_of_blanks {before behind : Text}
    (hbefore : ∀ c ∈ before, Text.isBlank c = true) (hbehind : ∀ c ∈ behind, Text.isBlank c = true)
    (segment : Text) :
    Declaration.ofSegment? (before ++ segment ++ behind) = Declaration.ofSegment? segment := by
  have hbefore' : ':' ∉ before := Text.notMem_of_blanks hbefore (by decide)
  have hbehind' : ':' ∉ behind := Text.notMem_of_blanks hbehind (by decide)
  by_cases hcolon : ':' ∈ segment
  · -- The blanks in front go to the property, and those behind to the value.
    obtain ⟨property, value, rfl, hproperty⟩ := List.eq_append_cons_of_mem hcolon
    have hfront : ':' ∉ before ++ property := by simp [hbefore', hproperty]
    have hparts : before ++ (property ++ ':' :: value) ++ behind =
        (before ++ property) ++ ':' :: (value ++ behind) := by simp
    rw [hparts, Declaration.ofSegment?_append_cons hfront,
      Declaration.ofSegment?_append_cons hproperty, Text.trim_append_left hbefore,
      Text.trim_append_right hbehind]
  · rw [Declaration.ofSegment?_of_notMem hcolon, Declaration.ofSegment?_of_notMem]
    simp [hbefore', hcolon, hbehind']

private theorem ofSegment?_append_left {before : Text}
    (hbefore : ∀ c ∈ before, Text.isBlank c = true) (segment : Text) :
    Declaration.ofSegment? (before ++ segment) = Declaration.ofSegment? segment := by
  have hnothing : ∀ c ∈ ([] : Text), Text.isBlank c = true := by simp
  have hboth := ofSegment?_of_blanks hbefore hnothing segment
  rwa [List.append_nil] at hboth

private theorem ofSegment?_append_right {behind : Text}
    (hbehind : ∀ c ∈ behind, Text.isBlank c = true) (segment : Text) :
    Declaration.ofSegment? (segment ++ behind) = Declaration.ofSegment? segment := by
  have hnothing : ∀ c ∈ ([] : Text), Text.isBlank c = true := by simp
  exact ofSegment?_of_blanks hnothing hbehind segment

private theorem declarations_append_left {before : Text}
    (hbefore : ∀ c ∈ before, Text.isBlank c = true) (body : Text) :
    declarations (before ++ body) = declarations body := by
  have hsemi : ';' ∉ before := Text.notMem_of_blanks hbefore (by decide)
  have hone {segment : Text} (h : ';' ∉ segment) :
      declarations (before ++ segment) = declarations segment := by
    rw [declarations_of_notMem h, declarations_of_notMem (by simp [hsemi, h]),
      ofSegment?_append_left hbefore]
  by_cases hmem : ';' ∈ body
  · obtain ⟨segment, rest, rfl, hsegment⟩ := List.eq_append_cons_of_mem hmem
    rw [← List.append_assoc, declarations_append, declarations_append, hone hsegment]
  · exact hone hmem

private theorem declarations_append_right {behind : Text}
    (hbehind : ∀ c ∈ behind, Text.isBlank c = true) (body : Text) :
    declarations (body ++ behind) = declarations body := by
  have hsemi : ';' ∉ behind := Text.notMem_of_blanks hbehind (by decide)
  induction body using segments_induction with
  | last segment hsegment =>
    rw [declarations_of_notMem hsegment, declarations_of_notMem (by simp [hsemi, hsegment]),
      ofSegment?_append_right hbehind]
  | next segment rest _ ih =>
    rw [List.append_assoc, List.cons_append, declarations_append, declarations_append, ih]

/-- Blanks around a body do not count. -/
theorem declarations_trim (body : Text) : declarations (Text.trim body) = declarations body := by
  obtain ⟨before, behind, hbody, hbefore, hbehind⟩ := Text.exists_blanks_trim body
  conv => rhs; rw [hbody]
  rw [declarations_append_right hbehind, declarations_append_left hbefore]

/-! ## Reading back -/

/-- A declaration in normal form is read back from its line, whatever blanks stand in front. -/
theorem Declaration.Normal.ofSegment?_text {d : Declaration} (h : d.Normal) {before : Text}
    (hbefore : ∀ c ∈ before, Text.isBlank c = true) :
    Declaration.ofSegment? (before ++ d.text) = some d := by
  have hspace : ∀ c ∈ [' '], Text.isBlank c = true := by decide
  have hvalue : Text.trim (' ' :: d.value) = d.value :=
    (Text.trim_append_left hspace d.value).trans h.trim_value
  have hne : ¬(d.property = [] ∨ d.value = []) := not_or.2 ⟨h.property_ne_nil, h.value_ne_nil⟩
  rw [ofSegment?_append_left hbefore, text, ofSegment?_append_cons h.colon_notMem,
    h.trim_property, hvalue, if_neg hne]

theorem Declaration.Normal.semicolon_notMem_text {d : Declaration} (h : d.Normal) :
    ';' ∉ d.text := by
  simp [Declaration.text, h.semicolon_notMem_property, h.semicolon_notMem_value]

theorem semicolon_notMem_lines {ds : List Declaration} (h : ∀ d ∈ ds, d.Normal) :
    ∀ line ∈ ds.map Declaration.text, ';' ∉ line := by
  intro line hline
  obtain ⟨d, hd, rfl⟩ := List.mem_map.1 hline
  exact (h d hd).semicolon_notMem_text

/-- Declarations in normal form that are written line by line are read back. Behind them may stand
what holds neither a semicolon nor a colon. -/
theorem declarations_of_lines {ds : List Declaration} (h : ∀ d ∈ ds, d.Normal) {indent rest : Text}
    (hindent : ∀ c ∈ indent, Text.isBlank c = true) (hsemi : ';' ∉ rest) (hcolon : ':' ∉ rest) :
    declarations (ds.flatMap (fun d => indent ++ d.text ++ [';']) ++ rest) = ds := by
  induction ds with
  -- No line is left, and the rest is one segment without a colon.
  | nil =>
    rw [List.flatMap_nil, List.nil_append, declarations_of_notMem hsemi,
      Declaration.ofSegment?_of_notMem hcolon, Option.toList_none]
  | cons d ds ih =>
    have hd := h d List.mem_cons_self
    -- A line with its indent is one segment; its semicolon ends it.
    have hnot : ';' ∉ indent ++ d.text := by
      rw [List.mem_append, not_or]
      exact ⟨Text.notMem_of_blanks hindent (by decide), hd.semicolon_notMem_text⟩
    have hrest := ih fun e he => h e (List.mem_cons_of_mem _ he)
    rw [List.flatMap_cons, List.append_assoc, List.append_assoc, List.singleton_append,
      declarations_append, declarations_of_notMem hnot, hd.ofSegment?_text hindent, hrest]
    rfl

end NativeStyle.Stylesheet
