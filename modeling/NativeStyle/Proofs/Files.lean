import NativeStyle.CommandLine.Run
import NativeStyle.Proofs.Concatenation
import NativeStyle.Proofs.Diagnostics

/-!
# Adapting files

A run over files adapts each of them on its own. What is written is put together from what is left
of the single files; a file that cannot be adapted is left as it is and changes nothing about the
others (`adaptSources_of_holds`). All files are read before the first byte is written, so the
output may be one of them, and reports go elsewhere.

Files whose stylesheets are closed can as well be written behind each other in one file. Only the
newlines where two files meet can run together, and newlines are no node
(`split_unifyNewlines_append`).

Main results:
- `delivered_of_holds` (how a run over files ends, and what it leaves in the directory),
- `writtenText_flatten` (many files or one),
- `runIn_isolates_files` (both together).
-/

namespace NativeStyle

open Stylesheet (split isClosed)

/-! ## Newlines between two texts -/

namespace Text

private theorem unifyNewlines_cons {c : Char} (hc : c ≠ '\r') (s : Text) :
    unifyNewlines (c :: s) = c :: unifyNewlines s := by
  rw [unifyNewlines]
  · exact fun _ hreturn => absurd hreturn hc
  · exact hc

private theorem unifyNewlines_return {s : Text} (hs : ∀ t, s ≠ '\n' :: t) :
    unifyNewlines ('\r' :: s) = '\n' :: unifyNewlines s := by
  rw [unifyNewlines]
  exact hs

/-- Where two texts meet, a carriage return and a line feed can become one newline in place of
two. -/
theorem exists_unifyNewlines_append (a b : Text) :
    ∃ blanks rest, unifyNewlines b = blanks ++ rest ∧
      unifyNewlines (a ++ b) = unifyNewlines a ++ rest ∧ ∀ c ∈ blanks, isBlank c = true := by
  have hnothing : ∀ c ∈ ([] : Text), isBlank c = true := by simp
  fun_induction unifyNewlines a with
  | case1 s ih =>
    obtain ⟨blanks, rest, hb, happend, hblanks⟩ := ih
    exact ⟨blanks, rest, hb, congrArg ('\n' :: ·) happend, hblanks⟩
  | case2 s hs ih =>
    cases s with
    | nil =>
      -- The return is the last character, so what follows can begin with its line feed.
      by_cases hfeed : ∃ t, b = '\n' :: t
      · obtain ⟨t, rfl⟩ := hfeed
        have hb : unifyNewlines ('\n' :: t) = ['\n'] ++ unifyNewlines t :=
          unifyNewlines_cons (by decide) t
        exact ⟨['\n'], unifyNewlines t, hb, rfl, by decide⟩
      · have happend : unifyNewlines ('\r' :: b) = '\n' :: unifyNewlines b :=
          unifyNewlines_return (not_exists.1 hfeed)
        exact ⟨[], unifyNewlines b, rfl, happend, hnothing⟩
    | cons c s =>
      obtain ⟨blanks, rest, hb, happend, hblanks⟩ := ih
      refine ⟨blanks, rest, hb, ?_, hblanks⟩
      have hnext : ∀ t, c :: s ++ b ≠ '\n' :: t := by
        intro t heq
        exact hs s (congrArg (· :: s) (List.cons.inj heq).1)
      rw [List.cons_append, unifyNewlines_return hnext, happend]
      rfl
  | case3 c s _ hc ih =>
    obtain ⟨blanks, rest, hb, happend, hblanks⟩ := ih
    refine ⟨blanks, rest, hb, ?_, hblanks⟩
    rw [List.cons_append, unifyNewlines_cons hc, happend]
    rfl
  | case4 => exact ⟨[], unifyNewlines b, rfl, rfl, hnothing⟩

end Text

/-- Newlines are no node, so it does not matter how many of them stand between two texts. -/
theorem split_unifyNewlines_append {a : Text} (h : isClosed (Text.unifyNewlines a) = true)
    (b : Text) :
    split (Text.unifyNewlines (a ++ b)) =
      split (Text.unifyNewlines a ++ Text.unifyNewlines b) := by
  obtain ⟨blanks, rest, hb, happend, hblanks⟩ := Text.exists_unifyNewlines_append a b
  rw [happend, hb, Stylesheet.split_append h, Stylesheet.split_append h,
    Stylesheet.split_blanks_append hblanks]

namespace CommandLine

/-! ## What is left of a stylesheet -/

/-- The adapted stylesheet or, exactly where it cannot be adapted, the stylesheet itself. -/
def leftOf (css : Text) : Text :=
  match (adapt {} css).result with
  | .ok text => text
  | .error _ => css

/-- What is left of the stylesheets, without those of which nothing is left, with blank lines
between them. -/
def joinedText (stylesheets : List Text) : Text :=
  Text.join fragmentSeparator ((stylesheets.map leftOf).filter (· ≠ []))

/-- The text that is written about stylesheets ends with a newline, unless nothing is left. -/
def writtenText (stylesheets : List Text) : Text :=
  if joinedText stylesheets = [] then [] else joinedText stylesheets ++ ['\n']

theorem joinedText_singleton (css : Text) : joinedText [css] = leftOf css := by
  by_cases hnil : leftOf css = [] <;> simp [joinedText, Text.join, hnil]

theorem joinedText_cons (css : Text) (stylesheets : List Text) :
    joinedText (css :: stylesheets) =
      Text.join fragmentSeparator ([leftOf css, joinedText stylesheets].filter (· ≠ [])) := by
  have hnil (texts : List Text) : [] ∉ texts.filter (· ≠ []) := by simp
  have hfilter : ((css :: stylesheets).map leftOf).filter (· ≠ []) =
      ([css].map leftOf).filter (· ≠ []) ++ (stylesheets.map leftOf).filter (· ≠ []) := by
    rw [← List.filter_append]
    rfl
  rw [joinedText, hfilter, Text.join_append (hnil _) (hnil _), ← joinedText, ← joinedText,
    joinedText_singleton]

/-- Reports do not change what is left. -/
theorem adaptSource_snd {options : Options} (h : options.silent = {}) (name css : Text) :
    (adaptSource options name css).2 = leftOf css := by
  have hresult : (adapt options css).result = (adapt {} css).result := by
    rw [← h, adapt, adapt, ← adaptSheet_without_info]
    rfl
  rw [adaptSource, adapt?, leftOf, ← hresult]
  cases (adapt options css).result <;> rfl

/-! ## Files that hold texts -/

/-- The source is a file that holds the text. -/
def Source.Holds (source : Source) (text : Text) : Prop :=
  ∃ path bytes, source = .file path bytes ∧ Text.ofUtf8? bytes = some text

/-- The path leads to a file of the directory that holds the text. -/
structure Holds (directory : Directory) (path text : Text) : Prop where
  notStandard : path ≠ standardPath
  readable : ∃ bytes, directory.read path = .ok bytes ∧ Text.ofUtf8? bytes = some text

theorem Holds.source {directory : Directory} {path text : Text} (h : Holds directory path text) :
    ∃ source, Source.ofPath directory.read path = .ok source ∧ source.Holds text := by
  obtain ⟨bytes, hread, htext⟩ := h.readable
  refine ⟨.file path bytes, ?_, path, bytes, rfl, htext⟩
  rw [Source.ofPath, if_neg h.notStandard, hread]
  rfl

theorem exists_sources {directory : Directory} {files texts : List Text}
    (h : List.Forall₂ (Holds directory) files texts) :
    ∃ sources, files.mapM (Source.ofPath directory.read) = .ok sources ∧
      List.Forall₂ Source.Holds sources texts := by
  induction h with
  | nil => exact ⟨[], rfl, .nil⟩
  | cons hfile _ ih =>
    obtain ⟨source, hsource, hholds⟩ := hfile.source
    obtain ⟨sources, hsources, hrest⟩ := ih
    refine ⟨source :: sources, ?_, .cons hholds hrest⟩
    rw [List.mapM_cons, hsource, hsources]
    rfl

/-- Every file is adapted on its own. -/
theorem adaptSources_of_holds {options : Options} (h : options.silent = {})
    {sources : List Source} {texts : List Text} (hsources : List.Forall₂ Source.Holds sources texts)
    (standardInput : ByteArray) :
    (adaptSources options standardInput sources).2 =
      .ok ((texts.map Text.unifyNewlines).map leftOf) := by
  induction hsources with
  | nil => rfl
  | cons hsource _ ih =>
    obtain ⟨path, bytes, rfl, htext⟩ := hsource
    simp only [adaptSources, Source.read?, htext, Option.map_some, ih, adaptSource_snd h]
    rfl

/-! ## Runs over files -/

/-- A run that delivers a text ends well. The text is printed, or it becomes the file to which the
output leads; no other file changes, and without a text none does. -/
structure Delivered (before : Directory) (output text : Text) (report : Report)
    (after : Directory) : Prop where
  exitCode : report.exitCode = 0
  crash : report.crash = none
  printed : report.output = if output = standardPath then text else []
  files : ∀ name, after.find? name =
    if text ≠ [] ∧ output ≠ standardPath ∧ before.resolve output = .ok name then
      some (Text.toUtf8 text)
    else before.find? name

/-- Where nothing is written to a file, the directory is as before. -/
private theorem delivered_without_file {directory : Directory} {output text : Text}
    (h : text = [] ∨ output = standardPath) (lines : List Text) :
    Delivered directory output text
      ⟨0, if output = standardPath then text else [], lines, none, none⟩ directory where
  exitCode := rfl
  crash := rfl
  printed := rfl
  files := by
    intro name
    rw [if_neg]
    rintro ⟨htext, houtput, -⟩
    exact h.elim htext houtput

/-- A file that is written is the only one that changes. -/
private theorem delivered_to_file {directory : Directory} {output text name : Text}
    (htext : text ≠ []) (houtput : output ≠ standardPath)
    (hname : directory.resolve output = .ok name) (lines : List Text) :
    Delivered directory output text ⟨0, [], lines, none, some (output, text)⟩
      (directory.put name (Text.toUtf8 text)) where
  exitCode := rfl
  crash := rfl
  printed := (if_neg houtput).symm
  files := by
    intro other
    by_cases hother : other = name
    · subst hother
      rw [if_pos ⟨htext, houtput, hname⟩, Directory.find?_put_same]
    · have hleads : ¬(text ≠ [] ∧ output ≠ standardPath ∧ directory.resolve output = .ok other) := by
        rintro ⟨-, -, hresolve⟩
        exact hother (Except.ok.inj (hresolve.symm.trans hname))
      rw [if_neg hleads, Directory.find?_put_other _ _ hother]

/-- The report of a run over files: nothing depends on the reports but the lines about them. -/
private theorem exists_transform_eq {options : Options} (h : options.silent = {})
    {sources : List Source} {texts : List Text} (hsources : List.Forall₂ Source.Holds sources texts)
    (standardInput : ByteArray) (output : Text) :
    ∃ lines, transform options standardInput sources output =
      let text := writtenText (texts.map Text.unifyNewlines)
      if text = [] ∨ output = standardPath then
        ⟨0, if output = standardPath then text else [], lines, none, none⟩
      else ⟨0, [], lines, none, some (output, text)⟩ := by
  have hall := adaptSources_of_holds h hsources standardInput
  refine ⟨(adaptSources options standardInput sources).1, ?_⟩
  rw [transform]
  generalize adaptSources options standardInput sources = adapted at hall ⊢
  obtain ⟨lines, result⟩ := adapted
  cases hall
  have hjoined : Text.join fragmentSeparator
      (((texts.map Text.unifyNewlines).map leftOf).filter (· ≠ [])) =
        joinedText (texts.map Text.unifyNewlines) := rfl
  simp only [writtenText, hjoined]
  by_cases hnil : joinedText (texts.map Text.unifyNewlines) = [] <;>
    by_cases houtput : output = standardPath <;> simp [hnil, houtput]

/-- However a run over files reports, it delivers the text for them. -/
theorem delivered_of_holds {arguments files texts : List Text} {output : Text} {debug : Bool}
    (hcommand : Command.ofArguments? arguments = some (.transform files output debug))
    (hne : files ≠ []) {directory : Directory}
    (hfiles : List.Forall₂ (Holds directory) files texts)
    (houtput : output = standardPath ∨ ∃ name, directory.resolve output = .ok name)
    (environment : List (Text × Text)) (standardInput : ByteArray) :
    ∃ report after,
      runIn directory environment standardInput arguments = some (report, after) ∧
      Delivered directory output (writtenText (texts.map Text.unifyNewlines)) report after := by
  obtain ⟨sources, hmapM, hsources⟩ := exists_sources hfiles
  -- The debug flag and the environment only turn reports on.
  have hrun : ∃ options : Options, options.silent = {} ∧
      Command.run? environment standardInput directory.read (.transform files output debug) =
        some (transform options standardInput sources output) := by
    refine ⟨{ Options.ofEnvironment environment with
      debug := debug || (Options.ofEnvironment environment).debug }, rfl, ?_⟩
    simp only [Command.run?, if_neg hne, hmapM]
  obtain ⟨options, hsilent, hrun⟩ := hrun
  obtain ⟨lines, hreport⟩ := exists_transform_eq hsilent hsources standardInput output
  generalize writtenText (texts.map Text.unifyNewlines) = text at hreport ⊢
  simp only [runIn, hcommand, hrun, Option.bind_eq_bind, Option.bind_some, hreport]
  by_cases hfile : text = [] ∨ output = standardPath
  · rw [if_pos hfile]
    exact ⟨_, directory, rfl, delivered_without_file hfile lines⟩
  · rw [if_neg hfile]
    obtain ⟨htext, hstandard⟩ := not_or.1 hfile
    obtain ⟨name, hname⟩ := houtput.resolve_left hstandard
    refine ⟨_, directory.put name (Text.toUtf8 text), ?_,
      delivered_to_file htext hstandard hname lines⟩
    simp only [Directory.write, hname]
    rfl

/-! ## Many files or one -/

/-- The stylesheet is closed and can be adapted. -/
structure Sound (css : Text) : Prop where
  closed : isClosed css = true
  adapts : ∃ text, (adapt {} css).result = .ok text

theorem Sound.result_adapt {css : Text} (h : Sound css) :
    (adapt {} css).result = .ok (leftOf css) := by
  obtain ⟨text, htext⟩ := h.adapts
  rw [leftOf, htext]

/-- Sound stylesheets written behind each other are adapted like each of them on its own. -/
theorem result_adapt_flatten {texts : List Text} (h : ∀ t ∈ texts, Sound (Text.unifyNewlines t)) :
    (adapt {} (Text.unifyNewlines texts.flatten)).result =
      .ok (joinedText (texts.map Text.unifyNewlines)) := by
  induction texts with
  | nil => decide +kernel
  | cons t texts ih =>
    have hsound := h t List.mem_cons_self
    have hfirst : (adaptSheet {} 0 (Text.unifyNewlines t)).result = _ := hsound.result_adapt
    have hothers : (adaptSheet {} 0 (Text.unifyNewlines texts.flatten)).result = _ :=
      ih fun u hu => h u (List.mem_cons_of_mem _ hu)
    have hsplit := split_unifyNewlines_append hsound.closed texts.flatten
    rw [List.flatten_cons, adapt, adaptSheet_congr hsplit, adaptSheet_append hsound.closed,
      (Logged.records_bind_ok hfirst).2, (Logged.records_bind_ok hothers).2, List.map_cons,
      joinedText_cons]
    rfl

/-- **Many files or one.** What is written for sound stylesheets is what is written for the one
stylesheet that has them all behind each other. -/
theorem writtenText_flatten {texts : List Text} (h : ∀ t ∈ texts, Sound (Text.unifyNewlines t)) :
    writtenText (texts.map Text.unifyNewlines) = writtenText [Text.unifyNewlines texts.flatten] := by
  have hjoined : joinedText [Text.unifyNewlines texts.flatten] =
      joinedText (texts.map Text.unifyNewlines) := by
    rw [joinedText_singleton, leftOf, result_adapt_flatten h]
  rw [writtenText, writtenText, hjoined]

/-! ## The command -/

section Arguments

variable {argument : Text} {rest behind : List Text} (hend : argument ≠ endOfOptions)
  (hoption : isOption argument = true) (parameters : TransformParameters)
include hend hoption

private theorem read?_debug
    (h : TransformParameters.readOption? argument rest = some (.debug, behind)) :
    parameters.read? (argument :: rest) = { parameters with debug := true }.read? behind := by
  rw [TransformParameters.read?, if_neg hend, if_pos hoption]
  split <;> rename_i hread <;> rw [h] at hread <;> cases hread
  rfl

private theorem read?_output {path : Text}
    (h : TransformParameters.readOption? argument rest = some (.output path, behind)) :
    parameters.read? (argument :: rest) = { parameters with output := path }.read? behind := by
  rw [TransformParameters.read?, if_neg hend, if_pos hoption]
  split <;> rename_i hread <;> rw [h] at hread <;> cases hread
  rfl

end Arguments

/-- Files of every name can be adapted to every output: behind two hyphens nothing is an option. -/
theorem ofArguments?_transform (files : List Text) (output : Text) (debug : Bool) :
    Command.ofArguments? ("transform".toList :: ((if debug then ["--debug".toList] else []) ++
        "-o".toList :: output :: endOfOptions :: files)) =
      some (.transform files output debug) := by
  have hread : ∀ arguments, Command.ofArguments? ("transform".toList :: arguments) =
      (TransformParameters.read? ⟨[], standardPath, false⟩ arguments).map fun p =>
        .transform p.files p.output p.debug := fun _ => rfl
  have houtput : ∀ parameters : TransformParameters,
      parameters.read? ("-o".toList :: output :: endOfOptions :: files) =
        some { parameters with output := output, files := parameters.files ++ files } := by
    intro parameters
    rw [read?_output (by decide) (by decide) parameters rfl, TransformParameters.read?, if_pos rfl]
  rw [hread]
  cases debug with
  | false =>
    rw [if_neg Bool.false_ne_true, List.nil_append, houtput]
    rfl
  | true =>
    rw [if_pos rfl, List.singleton_append, read?_debug (by decide) (by decide) _ rfl, houtput]
    rfl

/-- **Files are adapted in isolation.** For any files that hold texts and any output that can be
opened, the run ends well and delivers one text: what is left of the single files, with blank lines
between them. A file that cannot be adapted is left as it is, the others are adapted as if it were
not there, and neither the debug flag nor the environment makes a difference. Where all stylesheets
are closed and can be adapted, the text is the one that is delivered for a single file that holds
them all. -/
theorem runIn_isolates_files {arguments files texts : List Text} {output : Text} {debug : Bool}
    (hcommand : Command.ofArguments? arguments = some (.transform files output debug))
    (hne : files ≠ []) {directory : Directory}
    (hfiles : List.Forall₂ (Holds directory) files texts)
    (houtput : output = standardPath ∨ ∃ name, directory.resolve output = .ok name)
    (environment : List (Text × Text)) (standardInput : ByteArray) :
    ∃ report after,
      runIn directory environment standardInput arguments = some (report, after) ∧
      Delivered directory output (writtenText (texts.map Text.unifyNewlines)) report after ∧
      ((∀ t ∈ texts, Sound (Text.unifyNewlines t)) →
        writtenText (texts.map Text.unifyNewlines) =
          writtenText [Text.unifyNewlines texts.flatten]) := by
  obtain ⟨report, after, hrun, hdelivered⟩ :=
    delivered_of_holds hcommand hne hfiles houtput environment standardInput
  exact ⟨report, after, hrun, hdelivered, writtenText_flatten⟩

/-- Two files, the first of which cannot be adapted, are written to the second. -/
theorem runIn_isolates_files_failing :
    ∃ report after,
      runIn ⟨[("a".toList, Text.toUtf8 ".a\x7banimation:1mſ\x7d".toList),
            ("b".toList, Text.toUtf8 ".b\x7bmargin:1rem\x7d".toList)]⟩ [] .empty
          ["transform".toList, "--debug".toList, "-o".toList, "b".toList, "--".toList,
            "a".toList, "b".toList] = some (report, after) ∧
      report.exitCode = 0 ∧
      after.find? "a".toList = some (Text.toUtf8 ".a\x7banimation:1mſ\x7d".toList) ∧
      after.find? "b".toList = some (Text.toUtf8
        ".a\x7banimation:1mſ\x7d\n\n.b \x7b\n  margin: 16;\n\x7d\n".toList) := by
  have hcommand := ofArguments?_transform ["a".toList, "b".toList] "b".toList true
  set directory : Directory :=
    ⟨[("a".toList, Text.toUtf8 ".a\x7banimation:1mſ\x7d".toList),
      ("b".toList, Text.toUtf8 ".b\x7bmargin:1rem\x7d".toList)]⟩ with hdirectory
  have hfiles : List.Forall₂ (Holds directory) ["a".toList, "b".toList]
      [".a\x7banimation:1mſ\x7d".toList, ".b\x7bmargin:1rem\x7d".toList] :=
    .cons ⟨by decide, _, rfl, Text.ofUtf8?_toUtf8 _⟩
      (.cons ⟨by decide, _, rfl, Text.ofUtf8?_toUtf8 _⟩ .nil)
  obtain ⟨report, after, hrun, hdelivered, -⟩ := runIn_isolates_files hcommand (by decide) hfiles
    (Or.inr ⟨"b".toList, rfl⟩) [] .empty
  have hwritten : writtenText ([".a\x7banimation:1mſ\x7d".toList,
      ".b\x7bmargin:1rem\x7d".toList].map Text.unifyNewlines) =
        ".a\x7banimation:1mſ\x7d\n\n.b \x7b\n  margin: 16;\n\x7d\n".toList := by
    decide +kernel
  rw [hwritten] at hdelivered
  refine ⟨report, after, hrun, hdelivered.exitCode, ?_, ?_⟩
  · rw [hdelivered.files, if_neg]
    · rfl
    · rintro ⟨-, -, hresolve⟩
      cases hresolve
  · rw [hdelivered.files, if_pos]
    exact ⟨by decide, by decide, rfl⟩

end CommandLine

end NativeStyle
