import NativeStyle.Proofs.Fronts
import NativeStyle.Proofs.Rules

/-!
# Rules that are read back

A rule whose selector holds no at sign and whose body holds no brace leaves a text with one block
in it. Splitting reads that block as the rule's own, whatever stands behind a blank line, and the
declarations in it are the lines that were written.

Main results:
- `balanced_ruleInside` (no line opens or closes a block),
- `split_renderRule` (a written rule is the first node of the text),
- `adaptRule_read_back` (the rule with its declarations).
-/

namespace NativeStyle

open Stylesheet (Balanced Block Declaration declarations parts split)

/-- The declaration on a line that was written: the property up to the first colon, and the value
behind the colon and its blank. -/
def Stylesheet.Declaration.ofLine? (line : Text) : Option Declaration :=
  match Text.cut? ':' line with
  | some (property, ' ' :: value) => some ⟨property, value⟩
  | _ => none

theorem Stylesheet.Declaration.Normal.ofLine?_text {d : Declaration} (h : d.Normal) :
    Declaration.ofLine? d.text = some d := by
  have hcut : Text.cut? ':' d.text = some (d.property, ' ' :: d.value) :=
    Text.cut?_eq_some_iff.2 ⟨rfl, h.colon_notMem⟩
  simp [ofLine?, hcut]

section

variable {options : Options} {selector body : Text} {lines : List Text}

/-! ## The block of a written rule -/

/-- No line opens or closes a block, if the body does not. -/
theorem balanced_ruleInside (hopen : '{' ∉ body) (hclose : '}' ∉ body)
    (h : (ruleLines options (ruleDeclarations selector body)).result = .ok lines) :
    Balanced (ruleInside lines) := by
  have hnone {c : Char} (hc : c ∈ marks) (hc' : c ∈ ['{', '}', '@']) (hbody : c ∉ body) :
      c ∉ ruleInside lines := by
    apply Text.notMem_of_count_le _ hbody
    calc
      (ruleInside lines).count c = lines.flatten.count c := count_ruleInside hc' lines
      _ ≤ (parts (ruleDeclarations selector body)).count c := count_ruleLines_le hc h
      _ ≤ body.count c := count_ruleDeclarations_le hc selector body
  apply Stylesheet.balanced_of_no_brace
  · exact hnone (by simp [marks]) (by simp) hopen
  · exact hnone (by simp [marks]) (by simp) hclose

/-- A written rule is the first node of the text in which it stands. -/
theorem split_renderRule (hselector : selector ≠ []) (htrim : Text.trim selector = selector)
    (hopen : '{' ∉ selector) (hat : '@' ∉ selector) (hlines : lines ≠ [])
    (hinside : Text.trim (ruleInside lines) ≠ []) (hbalanced : Balanced (ruleInside lines))
    (t : Text) :
    split (renderRule selector lines ++ t) =
      .rule selector (Text.trim (ruleInside lines)) :: split t := by
  have hfront : Stylesheet.startsAtRule selector = false := by
    unfold Stylesheet.startsAtRule
    split
    · exact absurd List.mem_cons_self hat
    · rfl
  rw [renderRule_append hlines, Stylesheet.split_rule hselector htrim hopen hfront,
    Block.read_balanced hbalanced, if_neg hinside]
  rfl

/-! ## The whole rule -/

/-- **Reading back.** What is left of a rule is read as one rule with the adapted selector, behind
a blank line whatever may follow, and the declarations in its body are those on its lines. -/
theorem adaptRule_read_back {text : Text} (hopen : '{' ∉ body) (hclose : '}' ∉ body)
    (hat : '@' ∉ selector) (hselector : '{' ∉ selector)
    (h : (adaptRule options selector body).result = .ok (some text)) :
    ∃ (lines : List Text) (inside : Text),
      (ruleLines options (ruleDeclarations selector body)).result = .ok lines ∧
        text = renderRule (Selector.adapt selector) lines ∧
        (∀ t, split (text ++ fragmentSeparator ++ t) =
          .rule (Selector.adapt selector) inside :: split t) ∧
        lines.map Declaration.ofLine? = (declarations inside).map some := by
  obtain ⟨-, hadapted, lines, hlines, hne, rfl⟩ := adaptRule_eq_some_iff.1 h
  obtain ⟨ds, rfl, hds⟩ := emitted_of_ruleLines normal_of_mem_ruleDeclarations hlines
  have hnormal : ∀ d ∈ ds, d.Normal := fun d hd => (hds d hd).normal
  have hread : declarations (Text.trim (ruleInside (ds.map Declaration.text))) = ds := by
    have hnothing : ';' ∉ ([] : Text) ∧ ':' ∉ ([] : Text) := by simp
    have hwhole := declarations_ruleInside hnormal hnothing.1 hnothing.2
    rwa [List.append_nil, ← Stylesheet.declarations_trim] at hwhole
  -- There is a declaration in the block, so something is left of it when it is trimmed.
  have hinside : Text.trim (ruleInside (ds.map Declaration.text)) ≠ [] := by
    intro hnil
    rw [hnil] at hread
    exact hne (by rw [← hread]; rfl)
  have hblank : ∀ c ∈ fragmentSeparator, Text.isBlank c = true := by decide
  refine ⟨ds.map Declaration.text, Text.trim (ruleInside (ds.map Declaration.text)), hlines, rfl,
    ?_, ?_⟩
  · intro t
    have hopen' := Selector.notMem_adapt (by decide) (by decide) hselector
    have hat' := Selector.notMem_adapt (by decide) (by decide) hat
    have hbalanced := balanced_ruleInside hopen hclose hlines
    rw [List.append_assoc, split_renderRule hadapted (Selector.trim_adapt selector) hopen' hat' hne
      hinside hbalanced, Stylesheet.split_blanks_append hblank]
  · rw [hread, List.map_map]
    apply List.map_congr_left
    intro d hd
    exact (hnormal d hd).ofLine?_text

end

/-- A rule with a relative length, a segment without a colon and a value with one, in front of a
stylesheet that starts with a brace too many. -/
theorem adaptRule_read_back_malformed :
    ∃ inside,
      split (".ns-root, .ns-modal \x7b\n  --x: 16;\n  --y: b:c;\n\x7d".toList ++
          fragmentSeparator ++ "\x7d.d\x7be\x7d".toList) =
        .rule ".ns-root, .ns-modal".toList inside :: split "\x7d.d\x7be\x7d".toList ∧
      (declarations inside).map some =
        [some ⟨"--x".toList, "16".toList⟩, some ⟨"--y".toList, "b:c".toList⟩] := by
  have hlines : (ruleLines {} (ruleDeclarations ":root".toList
      " --x: 1rem; a; --y : b:c".toList)).result =
        .ok ["--x: 16".toList, "--y: b:c".toList] := by
    decide +kernel
  have hadapt : Selector.adapt ":root".toList = ".ns-root, .ns-modal".toList := by
    decide +kernel
  have hresult := adaptRule_eq_some_iff.2
    ⟨by decide, by rw [hadapt]; decide, _, hlines, by simp, rfl⟩
  obtain ⟨lines, inside, hread, -, hsplit, hdeclarations⟩ :=
    adaptRule_read_back (by decide) (by decide) (by decide) (by decide) hresult
  rw [hlines] at hread
  cases hread
  rw [hadapt] at hsplit
  refine ⟨inside, hsplit _, ?_⟩
  rw [← hdeclarations]
  decide

end NativeStyle
