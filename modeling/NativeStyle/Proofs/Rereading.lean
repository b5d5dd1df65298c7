import NativeStyle.Proofs.Fragments
import NativeStyle.Proofs.Fronts
import NativeStyle.Proofs.Marks

/-!
# Reading a fragment again

What a second pass does with the first fragment of a text that a first pass wrote. Keyframes are
read as keyframes; they stay if their body is balanced, and grow by a brace otherwise. A rule is
read as a rule unless its selector starts like an at-rule. Its lines are read as the declarations
that were written if the block is read to its own end, and then they stay if the policy has
nothing left to do.

That the block cannot end anywhere else without changing the text is shown by counting marks: a
brace that closes it too early is missing in the lines, and a text that is swallowed by an open
block is missing behind it.

Main results: `adaptSheet_keyframes_iff` and `adaptSheet_rule_iff`.
-/

namespace NativeStyle

open Stylesheet (Balanced Block Declaration Node Piece declarations depthBehind? split
  startsAtRule)

/-! ## Fragments that stay -/

/-- Whether a second pass reads the fragment as it was written and has nothing left to do. -/
def Fragment.Stays : Fragment → Prop
  | .rule selector declarations =>
    startsAtRule selector = false ∧ Selector.isSupported selector = true ∧
      Selector.Settled selector ∧
      (depthBehind? 0 (ruleInside (declarations.map Declaration.text))).isSome = true ∧
      ∀ d ∈ declarations, d.Settled
  | .keyframes _ body => Balanced body

instance : (f : Fragment) → Decidable f.Stays
  | .rule selector declarations =>
    inferInstanceAs (Decidable (startsAtRule selector = false ∧
      Selector.isSupported selector = true ∧ Selector.Settled selector ∧
      (depthBehind? 0 (ruleInside (declarations.map Declaration.text))).isSome = true ∧
      ∀ d ∈ declarations, d.Settled))
  | .keyframes _ body => inferInstanceAs (Decidable (Balanced body))

/-- A blank line in front of a stylesheet does not count. -/
theorem adaptSheet_behind (options : Options) (depth : Int) (rest : Text) :
    adaptSheet options depth (behind rest) = adaptSheet options depth rest := by
  apply adaptSheet_congr
  have hseparator : ∀ c ∈ fragmentSeparator, Text.isBlank c = true := by decide
  unfold behind
  split
  · next hnil => rw [hnil]
  · rw [← Stylesheet.split_dropWhile_isBlank, List.dropWhile_append_of_pos hseparator,
      Stylesheet.split_dropWhile_isBlank]

/-! ## Keyframes in front -/

section Keyframes

variable {options : Options} {params body rest : Text}

private theorem readName?_keyframes :
    Stylesheet.AtHead.readName? "keyframes".toList = some ("keyframes".toList, []) := by
  decide

/-- Keyframes are read as keyframes, whatever their body holds. -/
private theorem split_renderKeyframes (htrim : Text.trim params = params) (hopen : '{' ∉ params)
    (hsemi : ';' ∉ params) (hbody : Text.trim body = body) (t : Text) :
    split (renderKeyframes params body ++ t) = .atRule "keyframes".toList params
        (some (Block.read 0 (('\n' :: body ++ ['\n']) ++ '}' :: t)).1.inside) ::
      split (Block.read 0 (('\n' :: body ++ ['\n']) ++ '}' :: t)).2 := by
  have hname := readName?_keyframes
  rw [renderKeyframes_eq, hbody]
  -- Only that it is a name matters.
  generalize "keyframes".toList = name at hname ⊢
  have hsplit := Stylesheet.split_atBlock hname hopen hsemi (('\n' :: body ++ ['\n']) ++ '}' :: t)
  rw [htrim] at hsplit
  rw [← hsplit]
  simp only [List.append_assoc, List.cons_append, List.nil_append]

private theorem trim_lines (body : Text) : Text.trim ('\n' :: body ++ ['\n']) = Text.trim body := by
  have hbreak : ∀ c ∈ ['\n'], Text.isBlank c = true := by decide
  exact Text.trim_surrounded hbreak hbreak body

private theorem renderKeyframes_injective {body' : Text}
    (h : renderKeyframes params body = renderKeyframes params body') :
    Text.trim body = Text.trim body' := by
  unfold renderKeyframes at h
  exact List.append_cancel_left (List.append_cancel_right h)

private theorem depthBehind?_lines (body : Text) :
    depthBehind? 0 ('\n' :: body ++ ['\n']) = depthBehind? 0 body := by
  rw [← Stylesheet.depthBehind?_trim, trim_lines, Stylesheet.depthBehind?_trim]

private theorem balanced_lines_iff : Balanced ('\n' :: body ++ ['\n']) ↔ Balanced body := by
  rw [Stylesheet.balanced_iff, Stylesheet.balanced_iff, depthBehind?_lines]

/-- Keyframes in front of a text stay exactly if their body is balanced, and then the rest is
adapted as if it stood alone. -/
theorem adaptSheet_keyframes_iff (hf : (Fragment.keyframes params body).Emitted)
    (hlast : Balanced body ∨ rest = []) :
    (adaptSheet options 0 ((Fragment.keyframes params body).text ++ behind rest)).result =
        .ok ((Fragment.keyframes params body).text ++ behind rest) ↔
      (Fragment.keyframes params body).Stays ∧
        (Balanced (Fragment.keyframes params body).inside ∨ rest = []) ∧
        (adaptSheet options 0 rest).result = .ok rest := by
  cases hf with
  | keyframes htrim hopen hsemi hbody hdepth =>
    have hsplit := split_renderKeyframes htrim hopen hsemi hbody (behind rest)
    rw [Fragment.text]
    by_cases hbalanced : Balanced body
    · have hread := Block.read_balanced (balanced_lines_iff.2 hbalanced) (behind rest)
      have hsame : renderKeyframes params ('\n' :: body ++ ['\n']) =
          renderKeyframes params body := by
        unfold renderKeyframes
        rw [trim_lines]
      rw [hread] at hsplit
      -- The body is read as it was written, and trimming takes the line feeds off again.
      rw [adaptSheet_cons_eq_ok_iff hsplit, adaptNode, adaptAtRule_keyframes, hsame,
        adaptSheet_behind]
      constructor
      · rintro ⟨fragment, b, hfragment, hb, heq⟩
        cases hfragment
        have hrest : rest = b := behind_injective (List.append_cancel_left heq)
        exact ⟨hbalanced, Or.inl (balanced_lines_iff.2 hbalanced), hrest ▸ hb⟩
      · rintro ⟨-, -, hrest⟩
        exact ⟨_, rest, rfl, hrest, rfl⟩
    · -- Open keyframes take the brace that is written behind them into their body.
      refine iff_of_false ?_ fun h => hbalanced h.1
      intro h
      obtain rfl : rest = [] := hlast.resolve_left hbalanced
      rw [← depthBehind?_lines] at hdepth
      obtain ⟨d, hd⟩ := Stylesheet.exists_depth_of_not_balanced hdepth
        fun h => hbalanced (balanced_lines_iff.1 h)
      rw [show behind [] = [] from rfl, Block.read_of_depth hd] at hsplit
      obtain ⟨fragment, b, hfragment, hb, heq⟩ := (adaptSheet_cons_eq_ok_iff hsplit).1 h
      rw [adaptNode, adaptAtRule_keyframes] at hfragment
      cases hfragment
      rw [adaptSheet_eq, Stylesheet.split_nil] at hb
      cases hb
      -- So the body would have to stay the same with one brace more.
      have hsame := renderKeyframes_injective (List.append_cancel_right heq)
      have hcount := Text.count_trim (c := '}') (by decide) (('\n' :: body ++ ['\n']) ++ ['}'])
      rw [← hsame, hbody] at hcount
      simp at hcount

end Keyframes

/-! ## Rules in front -/

section Rule

variable {options : Options} {selector rest : Text} {lines : List Text}

/-- The lines of a rule are indented, the body of keyframes is not. -/
private theorem renderRule_append_ne_renderKeyframes (hne : lines ≠ []) (hselector : '{' ∉ selector)
    {params : Text} (hparams : '{' ∉ params) (body t t' : Text) :
    renderRule selector lines ++ t ≠ renderKeyframes params body ++ t' := by
  intro h
  have hname : '{' ∉ "keyframes".toList := by decide
  obtain ⟨line, others, rfl⟩ := List.exists_cons_of_ne_nil hne
  rw [renderRule_append hne, renderKeyframes_eq] at h
  generalize "keyframes".toList = name at hname h
  have hleft : selector ++ ' ' :: '{' :: (ruleInside (line :: others) ++ '}' :: t) =
      (selector ++ [' ']) ++ '{' :: (ruleInside (line :: others) ++ '}' :: t) := by
    simp
  have hright : '@' :: (name ++ ' ' :: (params ++ ' ' :: '{' ::
      (('\n' :: Text.trim body ++ ['\n']) ++ ['}']))) ++ t' =
      ('@' :: (name ++ ' ' :: (params ++ [' ']))) ++ '{' ::
        ('\n' :: (Text.trim body ++ '\n' :: '}' :: t')) := by
    simp
  rw [hleft, hright] at h
  -- Both texts go on behind their first opening brace.
  obtain ⟨-, hinside⟩ := Text.append_separator_inj (by simpa using hselector)
    (by simp [hname, hparams]) h
  have hindented : ruleInside (line :: others) ++ '}' :: t =
      '\n' :: ' ' :: ' ' :: (line ++ ';' :: (ruleInside others ++ '}' :: t)) := by
    simp [ruleInside, indent]
  rw [hindented] at hinside
  have hbody := (List.cons.inj hinside).2
  -- A trimmed body does not start with a blank.
  cases htrim : Text.trim body with
  | nil =>
    rw [htrim] at hbody
    exact absurd (List.cons.inj hbody).1 (by decide)
  | cons c s =>
    have hsolid := (Text.trim_eq_self_iff.1 (Text.trim_trim body)).1 c (by rw [htrim]; rfl)
    rw [htrim] at hbody
    rw [← (List.cons.inj hbody).1] at hsolid
    exact absurd hsolid (by decide)

/-- A rule whose selector starts like an at-rule does not stay. -/
private theorem startsAtRule_eq_false (hne : lines ≠ []) (hselector : '{' ∉ selector) {t : Text}
    (h : (adaptSheet options 0 (renderRule selector lines ++ t)).result =
      .ok (renderRule selector lines ++ t)) : startsAtRule selector = false := by
  cases hat : startsAtRule selector with
  | false => rfl
  | true =>
    exfalso
    obtain ⟨p, t', name, params, body, hreads, hnode, hsplit⟩ :=
      Stylesheet.exists_atRule hat (ruleInside lines ++ '}' :: t)
    rw [← renderRule_append hne] at hreads hsplit
    obtain ⟨fragment, b, hfragment, hb, heq⟩ := (adaptSheet_cons_eq_ok_iff hsplit).1 h
    -- An at sign is lost, unless keyframes bring it back.
    have hlost := count_body_lt hreads hnode
    have hrest := count_adaptSheet_le (c := '@') (by decide) hb
    cases fragment with
    | none =>
      rw [Option.elim_none] at heq
      rw [heq] at hlost
      omega
    | some text =>
      obtain ⟨inside, rfl, ⟨-, rfl⟩ | ⟨-, hlayer⟩⟩ := adaptAtRule_eq_some hfragment
      · have hmem : Node.atRule name params (some inside) ∈
            split (renderRule selector lines ++ t) := by
          rw [hsplit]
          exact List.mem_cons_self
        obtain ⟨-, hparams, -⟩ := Stylesheet.wellRead_of_mem_split _ hmem
        exact renderRule_append_ne_renderKeyframes hne hselector hparams inside t _ heq
      · have hinner := count_adaptSheet_le (c := '@') (by decide) hlayer
        rw [Option.elim_some] at hlost heq
        rw [heq, List.count_append, count_behind (by decide)] at hlost
        omega

/-- The text that is read again behind the brace of a rule. -/
private def behindBrace (lines : List Text) (rest : Text) : Text :=
  ruleInside lines ++ '}' :: behind rest

/-- A rule in front of a text stays exactly if its selector does, the block that is read leaves
the same lines, and what is read behind that block leaves the rest. -/
private theorem adaptSheet_renderRule_iff (hne : lines ≠ []) (hnil : selector ≠ [])
    (htrim : Text.trim selector = selector) (hselector : '{' ∉ selector)
    (hat : startsAtRule selector = false) (hlines : ∀ line ∈ lines, ';' ∉ line) :
    (adaptSheet options 0 (renderRule selector lines ++ behind rest)).result =
        .ok (renderRule selector lines ++ behind rest) ↔
      Selector.isSupported selector = true ∧ Selector.adapt selector = selector ∧
        (ruleLines options (declarations
          (Block.read 0 (behindBrace lines rest)).1.inside)).result = .ok lines ∧
        (adaptSheet options 0 (Block.read 0 (behindBrace lines rest)).2).result = .ok rest := by
  have hcss : renderRule selector lines ++ behind rest =
      selector ++ ' ' :: '{' :: behindBrace lines rest := renderRule_append hne selector _
  have hsplit := Stylesheet.split_rule hnil htrim hselector hat (behindBrace lines rest)
  have htext := Block.text_read 0 (behindBrace lines rest)
  rw [← hcss] at hsplit
  -- How far the block reaches does not matter yet.
  generalize Block.read 0 (behindBrace lines rest) = read at hsplit htext ⊢
  obtain ⟨block, t⟩ := read
  constructor
  · intro h
    -- Without the node a brace is missing.
    have hlost {b : Text} (hb : (adaptSheet options 0 t).result = .ok b) :
        renderRule selector lines ++ behind rest ≠ b := by
      intro heq
      have hle := count_adaptSheet_le (c := '{') (by decide) hb
      rw [← heq, hcss, ← htext] at hle
      simp only [List.count_append, List.count_cons] at hle
      simp at hle
      omega
    by_cases hinside : Text.trim block.inside = []
    · rw [if_pos hinside, List.nil_append] at hsplit
      rw [adaptSheet_congr hsplit] at h
      exact absurd rfl (hlost h)
    · rw [if_neg hinside, List.singleton_append] at hsplit
      obtain ⟨fragment, b, hfragment, hb, heq⟩ := (adaptSheet_cons_eq_ok_iff hsplit).1 h
      cases fragment with
      | none => exact absurd heq (hlost hb)
      | some text =>
        obtain ⟨hsupported, -, lines', hruleLines, hne', rfl⟩ := adaptRule_eq_some_iff.1 hfragment
        have hadapted : '{' ∉ Selector.adapt selector :=
          Selector.notMem_adapt (by decide) (by decide) hselector
        have hlines' := semicolon_notMem_of_ruleLines normal_of_mem_ruleDeclarations hruleLines
        obtain ⟨hsame, rfl, hbehind⟩ :=
          renderRule_append_inj hselector hadapted hne hne' hlines hlines' heq
        rw [ruleDeclarations_of_settled (Selector.adapt_eq_self_iff.1 hsame.symm)] at hruleLines
        exact ⟨hsupported, hsame.symm, hruleLines, behind_injective hbehind ▸ hb⟩
  · rintro ⟨hsupported, hadapt, hruleLines, hrest⟩
    -- An empty block would leave no lines.
    have hinside : Text.trim block.inside ≠ [] := by
      intro hnone
      rw [← Stylesheet.declarations_trim, hnone] at hruleLines
      cases hruleLines
      exact hne rfl
    rw [if_neg hinside, List.singleton_append] at hsplit
    refine (adaptSheet_cons_eq_ok_iff hsplit).2
      ⟨some (renderRule selector lines), rest, ?_, hrest, rfl⟩
    rw [adaptNode, adaptRule_eq_some_iff,
      ruleDeclarations_of_settled (Selector.adapt_eq_self_iff.1 hadapt), hadapt]
    exact ⟨hsupported, hnil, lines, hruleLines, hne, rfl⟩

/-- The lines that are left of a block have no brace more than the block, so the block of a rule
is not closed within them. -/
private theorem depth_isSome_of_ruleLines {t : Text}
    (h : (ruleLines options (declarations (Block.read 0 (ruleInside lines ++ t)).1.inside)).result =
      .ok lines) : (depthBehind? 0 (ruleInside lines)).isSome = true := by
  by_contra hnone
  -- If it were, the closing brace inside the lines would not be read as one of theirs.
  have hclosed : (Block.read 0 (ruleInside lines)).1.closed = true := by
    rw [← Bool.not_eq_false]
    exact fun hopen => hnone (Block.depth_isSome_of_not_closed hopen)
  have htext := Block.text_read 0 (ruleInside lines)
  have hread := count_ruleLines_le (c := '}') (by decide) h
  have hinside := count_ruleInside (c := '}') (by decide) lines
  rw [Block.read_append_of_closed hclosed] at hread
  have hdeclarations :=
    Stylesheet.count_declarations_le '}' (Block.read 0 (ruleInside lines)).1.inside
  rw [← htext, Block.text, hclosed, if_pos rfl, List.count_append, List.count_append,
    List.count_singleton_self] at hinside
  dsimp only at hread
  omega

/-- What a block has swallowed cannot be written behind it. -/
private theorem rest_eq_nil_of_swallowed {depth : Nat} (hopen : rest ≠ [] → '{' ∈ rest)
    (h : (adaptSheet options 0 (Block.read depth (behind rest)).2).result = .ok rest) :
    rest = [] := by
  by_contra hne
  have htext := Block.text_read depth (behind rest)
  have hle := count_adaptSheet_le (c := '{') (by decide) h
  have hcount := count_behind (c := '{') (by decide) rest
  rw [← htext, List.count_append] at hcount
  -- All opening braces are still there, so the block has swallowed none.
  have hnone : '{' ∉ (Block.read depth (behind rest)).1.text := by
    rw [← List.count_eq_zero]
    omega
  have hfront := count_beforeBlock_le h (by omega) (hopen hne)
  have hseparator : '{' ∉ fragmentSeparator ∧ fragmentSeparator.count '}' = 0 := by decide
  have hbefore : (beforeBlock (behind rest)).count '}' = (beforeBlock rest).count '}' := by
    rw [behind, if_neg hne, beforeBlock_append hseparator.1, List.count_append, hseparator.2,
      Nat.zero_add]
  rw [← htext, beforeBlock_append hnone, List.count_append] at hbefore
  -- It has swallowed a closing brace, or all of the text.
  cases hclosed : (Block.read depth (behind rest)).1.closed with
  | true =>
    rw [Block.text, hclosed, if_pos rfl, List.count_append, List.count_singleton_self] at hbefore
    omega
  | false =>
    rw [Block.rest_of_not_closed hclosed, adaptSheet_eq, Stylesheet.split_nil] at h
    cases h
    exact hne rfl

/-- A block that closes nothing it did not open is read back as it was written, unless it is left
open with something behind it. -/
private theorem read_behindBrace (options : Options) {ds : List Declaration}
    (hds : ∀ d ∈ ds, d.Normal)
    (hdepth : (depthBehind? 0 (ruleInside (ds.map Declaration.text))).isSome = true)
    (hclosed : Balanced (ruleInside (ds.map Declaration.text)) ∨ rest = []) :
    declarations (Block.read 0 (behindBrace (ds.map Declaration.text) rest)).1.inside = ds ∧
      adaptSheet options 0 (Block.read 0 (behindBrace (ds.map Declaration.text) rest)).2 =
        adaptSheet options 0 rest := by
  by_cases hbalanced : Balanced (ruleInside (ds.map Declaration.text))
  · have hread := declarations_ruleInside hds (List.not_mem_nil (a := ';')) List.not_mem_nil
    rw [List.append_nil] at hread
    rw [behindBrace, Block.read_balanced hbalanced]
    exact ⟨hread, adaptSheet_behind options 0 rest⟩
  · obtain rfl : rest = [] := hclosed.resolve_left hbalanced
    -- The brace that is written last closes an inner block only.
    obtain ⟨d, hd⟩ := Stylesheet.exists_depth_of_not_balanced hdepth hbalanced
    rw [show behindBrace _ [] = ruleInside (ds.map Declaration.text) ++ ['}'] from rfl,
      Block.read_of_depth hd]
    exact ⟨declarations_ruleInside hds (by decide) (by decide), rfl⟩

/-- A rule in front of a text stays exactly if a second pass has nothing left to do with it, and
then the rest is adapted as if it stood alone. Only a rule with nothing behind it may be left
open. -/
theorem adaptSheet_rule_iff {ds : List Declaration} (hf : (Fragment.rule selector ds).Emitted)
    (hopen : rest ≠ [] → '{' ∈ rest) :
    (adaptSheet options 0 ((Fragment.rule selector ds).text ++ behind rest)).result =
        .ok ((Fragment.rule selector ds).text ++ behind rest) ↔
      (Fragment.rule selector ds).Stays ∧
        (Balanced (Fragment.rule selector ds).inside ∨ rest = []) ∧
        (adaptSheet options 0 rest).result = .ok rest := by
  cases hf with
  | rule hnil htrim hselector hds hemitted =>
    have hnormal : ∀ d ∈ ds, d.Normal := fun d hd => (hemitted d hd).normal
    have hne : ds.map Declaration.text ≠ [] := by simpa using hds
    have hlines := Stylesheet.semicolon_notMem_lines hnormal
    constructor
    · intro h
      have hat := startsAtRule_eq_false hne hselector h
      obtain ⟨hsupported, hadapt, hruleLines, hrest⟩ :=
        (adaptSheet_renderRule_iff hne hnil htrim hselector hat hlines).1 h
      have hdepth := depth_isSome_of_ruleLines hruleLines
      -- If the block is still open behind its own brace, it swallows what follows.
      have hclosed : Balanced (ruleInside (ds.map Declaration.text)) ∨ rest = [] := by
        by_cases hbalanced : Balanced (ruleInside (ds.map Declaration.text))
        · exact Or.inl hbalanced
        · right
          obtain ⟨d, hd⟩ := Stylesheet.exists_depth_of_not_balanced hdepth hbalanced
          rw [behindBrace, List.append_cons, Block.read_append_of_depth hd] at hrest
          exact rest_eq_nil_of_swallowed hopen hrest
      obtain ⟨hdeclarations, hsame⟩ := read_behindBrace options hnormal hdepth hclosed
      rw [hdeclarations] at hruleLines
      rw [hsame] at hrest
      have hsettled := (ruleLines_eq_iff_settled hemitted).1 hruleLines
      have hselector := Selector.adapt_eq_self_iff.1 hadapt
      exact ⟨⟨hat, hsupported, hselector, hdepth, hsettled⟩, hclosed, hrest⟩
    · rintro ⟨⟨hat, hsupported, hadapt, hdepth, hsettled⟩, hclosed, hrest⟩
      obtain ⟨hdeclarations, hsame⟩ := read_behindBrace options hnormal hdepth hclosed
      refine (adaptSheet_renderRule_iff hne hnil htrim hselector hat hlines).2
        ⟨hsupported, Selector.adapt_eq_self_iff.2 hadapt, ?_, ?_⟩
      · rw [hdeclarations]
        exact (ruleLines_eq_iff_settled hemitted).2 hsettled
      · rw [hsame]
        exact hrest

end Rule

end NativeStyle
