import NativeStyle.Proofs.Flattening
import NativeStyle.Proofs.Fronts
import Mathlib.Logic.Function.Iterate

/-!
# Stylesheets inside layers

A stylesheet with balanced braces can be put into a layer, and the layer into another one. Reading
the outer layer gives back exactly what was put in, so a layer costs nothing but one level of
depth; and what is left of a stylesheet depends on its depth and on the deepest allowed nesting
only by their difference.

Main results:
- `split_inLayer` (a layer around a balanced text is one node, with the text as its body),
- `adaptSheet_result_shift` (only the distance to the deepest nesting counts),
- `adapt_layers` (layers up to the deepest nesting are flattened, one more is dropped).
-/

namespace NativeStyle

open Stylesheet (Node split Balanced Block AtHead balanced_of_no_brace split_atBlock split_nil)

/-- The text inside a layer with these parameters. -/
def inLayer (params css : Text) : Text :=
  '@' :: ("layer".toList ++ (' ' :: params ++ [' ']) ++ '{' :: css ++ ['}'])

/-! ## Reading a layer -/

/-- A layer around a balanced text is one node, and its body is that text. -/
theorem split_inLayer {params css : Text} (hcss : Balanced css) (hopen : '{' ∉ params)
    (hsemi : ';' ∉ params) :
    split (inLayer params css) = [.atRule "layer".toList (Text.trim params) (some css)] := by
  -- The text in the form in which the front of a stylesheet is known.
  have htext : inLayer params css =
      '@' :: ("layer".toList ++ ' ' :: (params ++ ' ' :: '{' :: (css ++ ['}']))) := by
    simp only [inLayer, List.append_assoc, List.cons_append, List.nil_append]
  have hname : AtHead.readName? "layer".toList = some ("layer".toList, []) := by decide
  rw [htext, split_atBlock hname hopen hsemi, Block.read_balanced hcss [], split_nil]

/-- A layer around a balanced text is balanced, if its parameters have no brace. -/
theorem balanced_inLayer {params css : Text} (hcss : Balanced css) (hopen : '{' ∉ params)
    (hclose : '}' ∉ params) : Balanced (inLayer params css) := by
  have htext : inLayer params css =
      ('@' :: "layer".toList ++ (' ' :: params ++ [' '])) ++ ('{' :: (css ++ ['}'])) := by
    simp only [inLayer, List.append_assoc, List.cons_append]
  have hname : '{' ∉ '@' :: "layer".toList ∧ '}' ∉ '@' :: "layer".toList := by decide
  have hhead : Balanced ('@' :: "layer".toList ++ (' ' :: params ++ [' '])) := by
    apply (balanced_of_no_brace hname.1 hname.2).append
    exact balanced_of_no_brace (by simpa using hopen) (by simpa using hclose)
  -- A head without braces, and a balanced text in braces.
  rw [htext]
  exact hhead.append hcss.inBraces

/-! ## One layer -/

theorem adaptSheet_inLayer {options : Options} {depth : Int} {params css : Text}
    (hcss : Balanced css) (hopen : '{' ∉ params) (hsemi : ';' ∉ params)
    (h : depth < options.maxDepth) :
    adaptSheet options depth (inLayer params css) = adaptSheet options (depth + 1) css := by
  rw [adaptSheet_eq, split_inLayer hcss hopen hsemi]
  exact joinFragments_layer h

theorem adaptSheet_inLayer_of_le {options : Options} {depth : Int} {params css : Text}
    (hcss : Balanced css) (hopen : '{' ∉ params) (hsemi : ';' ∉ params)
    (h : options.maxDepth ≤ depth) :
    adaptSheet options depth (inLayer params css) =
      ⟨[.tooDeep (Text.trim params) options.maxDepth], .ok []⟩ := by
  rw [adaptSheet_eq, split_inLayer hcss hopen hsemi, List.map_cons, List.map_nil, adaptNode,
    adaptAtRule_layer_of_le _ _ h]
  rfl

/-! ## Layers in layers -/

section Layers

variable {options : Options} {params css : Text}

theorem balanced_layers (hcss : Balanced css) (hopen : '{' ∉ params) {k : Nat}
    (hclose : '}' ∈ params → k = 0) : Balanced ((inLayer params)^[k] css) := by
  induction k with
  | zero => exact hcss
  | succ k ih =>
    have hparams : '}' ∉ params := fun hmem => absurd (hclose hmem) (Nat.succ_ne_zero k)
    rw [Function.iterate_succ_apply']
    exact balanced_inLayer (ih fun hmem => absurd hmem hparams) hopen hparams

/-- As long as no layer is too deep, `k` layers count for `k` levels of depth. -/
theorem adaptSheet_layers (hcss : Balanced css) (hopen : '{' ∉ params) (hsemi : ';' ∉ params)
    {k : Nat} (hclose : '}' ∈ params → k ≤ 1) {depth : Int}
    (h : depth + k ≤ options.maxDepth) :
    adaptSheet options depth ((inLayer params)^[k] css) = adaptSheet options (depth + k) css := by
  induction k generalizing depth with
  | zero => simp
  | succ k ih =>
    -- The induction peels off the outermost layer, so what it holds must be balanced.
    have hinner : Balanced ((inLayer params)^[k] css) := by
      apply balanced_layers hcss hopen
      intro hmem
      have := hclose hmem
      omega
    rw [Function.iterate_succ_apply', adaptSheet_inLayer hinner hopen hsemi (by omega),
      ih (fun hmem => by have := hclose hmem; omega) (by omega)]
    congr 1
    omega

/-- The first layer that is too deep is dropped with all that it holds. -/
theorem adaptSheet_layers_of_lt (hcss : Balanced css) (hopen : '{' ∉ params)
    (hsemi : ';' ∉ params) {k : Nat} (hclose : '}' ∈ params → k ≤ 1) {depth : Int}
    (hdepth : depth ≤ options.maxDepth) (h : options.maxDepth < depth + k) :
    adaptSheet options depth ((inLayer params)^[k] css) =
      ⟨[.tooDeep (Text.trim params) options.maxDepth], .ok []⟩ := by
  induction k generalizing depth with
  | zero => omega
  | succ k ih =>
    have hinner : Balanced ((inLayer params)^[k] css) := by
      apply balanced_layers hcss hopen
      intro hmem
      have := hclose hmem
      omega
    rw [Function.iterate_succ_apply']
    -- Either the outermost layer is too deep already, or one further inside is.
    by_cases hlast : options.maxDepth ≤ depth
    · exact adaptSheet_inLayer_of_le hinner hopen hsemi hlast
    · rw [adaptSheet_inLayer hinner hopen hsemi (by omega)]
      exact ih (fun hmem => by have := hclose hmem; omega) (by omega) (by omega)

end Layers

/-! ## Only the distance to the deepest nesting counts -/

theorem verdict_maxDepth (options : Options) (m : Int) (policy : Policy)
    (d : Stylesheet.Declaration) :
    Policy.verdict { options with maxDepth := m } policy d = Policy.verdict options policy d := by
  induction policy with
  | nil => rfl
  | cons step steps ih =>
    simp only [Policy.verdict, ih]
    cases step <;> rfl

theorem adaptRule_maxDepth (options : Options) (m : Int) (selector body : Text) :
    adaptRule { options with maxDepth := m } selector body = adaptRule options selector body := by
  have hverdict : Policy.verdict { options with maxDepth := m } .standard =
      Policy.verdict options .standard := funext fun d => verdict_maxDepth options m .standard d
  simp only [adaptRule, ruleLines, hverdict]

/-- Leaves are rules and keyframes, and neither looks at the deepest nesting. -/
theorem adaptNode_maxDepth {maxDepth depth : Int} {css : Text} {leaf : Node}
    (hleaf : leaf ∈ leaves maxDepth depth css) (options : Options) (m : Int) :
    adaptNode { options with maxDepth := m } 0 leaf = adaptNode options 0 leaf := by
  rcases mem_leaves hleaf with ⟨selector, body, rfl⟩ | ⟨params, body, rfl⟩
  · exact adaptRule_maxDepth options m selector body
  · simp only [adaptNode, adaptAtRule_keyframes]

/-- What is left of a stylesheet depends on its depth and on the deepest allowed nesting only by
their difference. -/
theorem adaptSheet_result_shift (options : Options) (maxDepth depth shift : Int) (css : Text) :
    (adaptSheet { options with maxDepth := maxDepth + shift } (depth + shift) css).result =
      (adaptSheet { options with maxDepth := maxDepth } depth css).result := by
  rw [adaptSheet_result_eq, adaptSheet_result_eq, leaves_shift]
  congr 2
  refine List.map_congr_left fun leaf hleaf => ?_
  exact (adaptNode_maxDepth hleaf options _).trans (adaptNode_maxDepth hleaf options _).symm

/-! ## The deepest nesting -/

/-- **Layers and the depth cap.** A balanced stylesheet inside `k` layers gives what it gives on
its own with `k` levels less to go, as long as that many are allowed; with one layer too many
nothing is left, and a single warning tells so. A closing brace in the parameters would end the
block of an outer layer, so it is allowed only where there is none. -/
theorem adapt_layers {css params : Text} {k : Nat} (hcss : Balanced css) (hopen : '{' ∉ params)
    (hsemi : ';' ∉ params) (hclose : '}' ∈ params → k ≤ 1) (options : Options) (m : Nat) :
    (k ≤ m → (adapt { options with maxDepth := m } ((inLayer params)^[k] css)).result =
        (adapt { options with maxDepth := m - k } css).result) ∧
      (m < k → adapt { options with maxDepth := m } ((inLayer params)^[k] css) =
        ⟨[.tooDeep (Text.trim params) m], .ok []⟩) := by
  constructor
  · intro hk
    -- All layers fit, so they only use up their levels.
    have hfits : (0 : Int) + k ≤ ({ options with maxDepth := m } : Options).maxDepth := by
      show (0 : Int) + k ≤ m
      omega
    have hshift := adaptSheet_result_shift options (m - k) 0 k css
    rw [show (m : Int) - k + k = m by omega] at hshift
    rw [adapt, adapt, adaptSheet_layers hcss hopen hsemi hclose hfits]
    exact hshift
  · intro hk
    apply adaptSheet_layers_of_lt hcss hopen hsemi hclose
    · show (0 : Int) ≤ m
      omega
    · show (m : Int) < 0 + k
      omega

/-- Two layers are flattened if two are allowed, and dropped if it is only one. -/
theorem adapt_layers_two :
    (adapt { maxDepth := 2 } ((inLayer "a, b".toList)^[2] ".x\x7bcolor:red\x7d".toList)).result =
        .ok ".x \x7b\n  color: red;\n\x7d".toList ∧
      adapt { maxDepth := 1 } ((inLayer "a, b".toList)^[2] ".x\x7bcolor:red\x7d".toList) =
        ⟨[.tooDeep "a, b".toList 1], .ok []⟩ := by
  constructor
  · exact ((adapt_layers (by decide) (by decide) (by decide) (by decide) {} 2).1 (by decide)).trans
      (by decide +kernel)
  · exact (adapt_layers (by decide) (by decide) (by decide) (by decide) {} 1).2 (by decide)

/-- A closing brace in the parameters ends the outer one of two layers too early. -/
theorem adapt_layers_ne_of_closing_brace :
    Balanced ".x\x7bcolor:red\x7d".toList ∧ '{' ∉ "\x7d".toList ∧ ';' ∉ "\x7d".toList ∧
      (adapt { maxDepth := 2 } ((inLayer "\x7d".toList)^[2] ".x\x7bcolor:red\x7d".toList)).result ≠
        (adapt { maxDepth := 2 - 2 } ".x\x7bcolor:red\x7d".toList).result := by
  decide +kernel

end NativeStyle
