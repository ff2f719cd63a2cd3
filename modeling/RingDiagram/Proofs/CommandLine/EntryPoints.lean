import RingDiagram.Proofs.CommandLine.Options
import RingDiagram.Proofs.CommandLine.Runs
import RingDiagram.Proofs.Drawing.Lines

/-!
# One picture from all entry points

A picture is asked for on a command line, or with the few numbers of `Svg.ofSourceSized`, or with
nothing at all. All of these come to one source text, settings and a size, and to the document of
`Svg.ofSource` for them.

* What the options of a command line choose is said without the reader of arguments (`Chooses`): for
  every option what its value reads as, and what stands in the settings of a drawing for which
  nothing is chosen if it is not given. `chooses_of_asks` says that the reader does just that.
* A run that prints shows the document, or the commands, or fails (`run_printed`). Both come from
  the same commands (`Arguments.draw_eq`), so a run fails exactly if there is no document
  (`shows_printed`).
* The texts that stand for the options that are not given read as the standard numbers
  (`selects_standardText`), so giving them makes no difference.
-/

namespace RingDiagram.CommandLine

open Decimal

/-! ### What options choose -/

/-- What the values of a command line select for one option: what the value given reads as, and the
standard one if none is given. -/
def Selects {β : Type} (read? : String → Option β) (values : List (Key × String)) (key : Key)
    (standard selected : β) : Prop :=
  (∀ text, (key, text) ∈ values → read? text = some selected) ∧
    ((∀ text, (key, text) ∉ values) → selected = standard)

/-- The settings and the size that the values of a command line choose. -/
structure Chooses (values : List (Key × String)) (settings : Settings Float)
    (width height : Float) : Prop where
  width : Selects readFloat? values .width 300 width
  height : Selects readFloat? values .height 300 height
  background : Selects some values .background
    (Settings.standard (α := Float)).background settings.background
  vertexColor : Selects some values .vertexColor
    (Settings.standard (α := Float)).vertexColor settings.vertexColor
  edgeColor : Selects some values .edgeColor
    (Settings.standard (α := Float)).edgeColor settings.edgeColor
  ringRadius : Selects readFloat? values .radius Settings.standard.ringRadius settings.ringRadius
  vertexRadius : Selects readFloat? values .vertexRadius Settings.standard.vertexRadius
    settings.vertexRadius
  edgeThickness : Selects readFloat? values .edgeThickness Settings.standard.edgeThickness
    settings.edgeThickness
  arrowSize : Selects readFloat? values .arrowSize Settings.standard.arrowSize settings.arrowSize
  bendiness : Selects readFloat? values .bendiness Settings.standard.bendiness settings.bendiness

section Values

variable {texts : List String} {values : List (Key × String)} {commands : Bool} {key : Key}

/-- An option that is given once has the value that it is given. -/
theorem lookup_eq_some_iff (h : (values.map Prod.fst).Nodup)
    {text : String} : values.lookup key = some text ↔ (key, text) ∈ values := by
  induction values with
  | nil => simp
  | cons v values ih =>
    obtain ⟨h_v, h_rest⟩ := List.nodup_cons.1 h
    obtain ⟨other, value⟩ := v
    rw [List.lookup_cons, List.mem_cons, Prod.mk.injEq]
    by_cases h_key : key = other
    · subst h_key
      -- the option does not stand among the others again
      have h_none : (key, text) ∉ values := fun h_mem => h_v (List.mem_map.2 ⟨_, h_mem, rfl⟩)
      simp [h_none, eq_comm]
    · rw [beq_eq_false_iff_ne.2 h_key, ih h_rest]
      simp [h_key]

/-- The arguments that hold these values. -/
abbrev argumentsOf (values : List (Key × String)) (commands : Bool) : Arguments :=
  { values := values.reverse, commands }

/-- What is looked up for an option is what it is given. -/
theorem value?_eq_some_iff (h : Asks texts values commands) {text : String} :
    (argumentsOf values commands).value? key = some text ↔ (key, text) ∈ values := by
  -- the values are looked up from the last to the first, which makes no difference as no option is
  -- given twice
  have h_once := ((List.reverse_perm values).map Prod.fst).nodup_iff.2 h.once
  rw [Arguments.value?, lookup_eq_some_iff h_once, List.mem_reverse]

theorem value?_eq_none_iff (h : Asks texts values commands) :
    (argumentsOf values commands).value? key = none ↔ ∀ text, (key, text) ∉ values := by
  simp only [Option.eq_none_iff_forall_ne_some, ne_eq, value?_eq_some_iff h]

/-- **What is looked up** for an option and read is what the values select. -/
theorem selects_getD {β : Type} (read? : String → Option β) (standard : β)
    (h : Asks texts values commands)
    (h_read : ∀ text, (key, text) ∈ values → (read? text).isSome) :
    Selects read? values key standard
      ((((argumentsOf values commands).value? key).bind read?).getD standard) := by
  constructor
  · intro text h_text
    -- the reader of arguments has seen to it that the value reads as something
    obtain ⟨b, h_b⟩ := Option.isSome_iff_exists.1 (h_read text h_text)
    rw [(value?_eq_some_iff h).2 h_text, Option.bind_some, h_b]
    rfl
  · intro h_none
    rw [(value?_eq_none_iff h).2 h_none]
    rfl

/-- Options that take a number are given one. -/
theorem selects_number (h : Asks texts values commands) (h_number : key.isText = false)
    (standard : Float) :
    Selects readFloat? values key standard ((argumentsOf values commands).number key standard) := by
  refine selects_getD readFloat? standard h fun text h_text => ?_
  -- a value that reads as no number would have been refused
  have h_accepts := h.accepted _ h_text
  rw [Key.accepts, h_number] at h_accepts
  exact h_accepts

theorem selects_text (h : Asks texts values commands) (key : Key) (standard : String) :
    Selects some values key standard ((argumentsOf values commands).text key standard) := by
  have h_selects : Selects some values key standard _ :=
    selects_getD some standard h fun _ _ => rfl
  rwa [Option.bind_fun_some] at h_selects

/-- **The arguments hold what the options choose.** -/
theorem chooses_of_asks (h : Asks texts values commands) :
    Chooses values (argumentsOf values commands).settings (argumentsOf values commands).width
      (argumentsOf values commands).height where
  width := selects_number h rfl _
  height := selects_number h rfl _
  background := selects_text h _ _
  vertexColor := selects_text h _ _
  edgeColor := selects_text h _ _
  ringRadius := selects_number h rfl _
  vertexRadius := selects_number h rfl _
  edgeThickness := selects_number h rfl _
  arrowSize := selects_number h rfl _
  bendiness := selects_number h rfl _

end Values

/-! ### Choices -/

namespace Selects

variable {β : Type} {read? : String → Option β} {values : List (Key × String)} {key : Key}
  {standard selected other : β}

/-- One value is selected. -/
theorem unique (h : Selects read? values key standard selected)
    (h' : Selects read? values key standard other) : other = selected := by
  -- a value that is given reads as one thing, and without one both are the standard one
  by_cases h_given : ∃ text, (key, text) ∈ values
  · obtain ⟨text, h_text⟩ := h_given
    exact Option.some.inj ((h'.1 text h_text).symm.trans (h.1 text h_text))
  · have h_none : ∀ text, (key, text) ∉ values := fun text h_text => h_given ⟨text, h_text⟩
    rw [h.2 h_none, h'.2 h_none]

/-- One more option that was not given selects nothing else if it stands for the standard value, or
if it is another option. -/
theorem cons {given : Key} {text : String} (h : Selects read? values key standard selected)
    (h_new : ∀ value, (given, value) ∉ values) (h_text : key = given → read? text = some standard) :
    Selects read? ((given, text) :: values) key standard selected := by
  constructor
  · intro value h_value
    rcases List.mem_cons.1 h_value with h_eq | h_value
    · -- the new option itself: nothing was given for it before
      obtain ⟨rfl, rfl⟩ := Prod.mk.inj h_eq
      rw [h_text rfl, h.2 h_new]
    · exact h.1 value h_value
  · intro h_none
    exact h.2 fun value h_value => h_none value (List.mem_cons_of_mem _ h_value)

end Selects

/-- The text that stands for an option that is not given. -/
def Key.standardText? : Key → Option String
  | output => none
  | width | height => some "300"
  | radius => some "100"
  | vertexRadius => some "5"
  | edgeThickness => some "1.5"
  | arrowSize => some "8"
  | bendiness => some "10"
  | background => some "white"
  | vertexColor | edgeColor => some "black"

namespace Chooses

variable {values : List (Key × String)} {settings settings' : Settings Float}
  {width width' height height' : Float}

/-- One picture is chosen. -/
theorem unique (h : Chooses values settings width height)
    (h' : Chooses values settings' width' height') :
    settings' = settings ∧ width' = width ∧ height' = height := by
  refine ⟨?_, h.width.unique h'.width, h.height.unique h'.height⟩
  -- the settings are what is chosen for each of their fields
  cases settings
  cases settings'
  simp only [Settings.mk.injEq]
  exact ⟨h.background.unique h'.background, h.vertexColor.unique h'.vertexColor,
    h.edgeColor.unique h'.edgeColor, h.ringRadius.unique h'.ringRadius,
    h.vertexRadius.unique h'.vertexRadius, h.edgeThickness.unique h'.edgeThickness,
    h.arrowSize.unique h'.arrowSize, h.bendiness.unique h'.bendiness⟩

/-- **Standard texts** choose what is chosen without them. -/
theorem cons_standardText {key : Key} {text : String} (h : Chooses values settings width height)
    (h_text : key.standardText? = some text) (h_new : ∀ value, (key, value) ∉ values) :
    Chooses ((key, text) :: values) settings width height := by
  constructor
  -- a number in a standard text is read by evaluation, a paint is its own text
  case width => exact h.width.cons h_new (by rintro rfl; cases h_text; decide +kernel)
  case height => exact h.height.cons h_new (by rintro rfl; cases h_text; decide +kernel)
  case background => exact h.background.cons h_new (by rintro rfl; cases h_text; rfl)
  case vertexColor => exact h.vertexColor.cons h_new (by rintro rfl; cases h_text; rfl)
  case edgeColor => exact h.edgeColor.cons h_new (by rintro rfl; cases h_text; rfl)
  case ringRadius => exact h.ringRadius.cons h_new (by rintro rfl; cases h_text; decide +kernel)
  case vertexRadius => exact h.vertexRadius.cons h_new (by rintro rfl; cases h_text; decide +kernel)
  case edgeThickness =>
    exact h.edgeThickness.cons h_new (by rintro rfl; cases h_text; decide +kernel)
  case arrowSize => exact h.arrowSize.cons h_new (by rintro rfl; cases h_text; decide +kernel)
  case bendiness => exact h.bendiness.cons h_new (by rintro rfl; cases h_text; decide +kernel)

end Chooses

/-! ### What a run prints -/

/-- What a run shows of a result that is printed. -/
def printed : Except Failure String → Outcome
  | .ok result => ⟨0, result, ""⟩
  | .error f => drawingFailure f

/-- What a run shows that prints the picture of a source text, as a document or as commands. -/
structure Shows (commands : Bool) (source : String) (settings : Settings Float)
    (width height : Float) (outcome : Outcome) : Prop where
  exitCode : outcome.exitCode = 0 ∨ outcome.exitCode = 1
  fails : outcome.exitCode = 1 ↔ ∃ f, Svg.ofSource source settings width height = .error f
  nothing : outcome.exitCode = 1 → outcome.output = ""
  document : commands = false → outcome = printed (Svg.ofSource source settings width height)
  /-- There is one line for every command, and nothing behind the last of them. -/
  lines : commands = true → ∀ text, Svg.ofSource source settings width height = .ok text →
    ∃ m drawn, Notation.read source = .ok m ∧ m.drawing settings width height = .ok drawn ∧
      outcome.exitCode = 0 ∧ outcome.errors = "" ∧
      outcome.output.toList.splitOn '\n' = drawn.map (·.describe.toList) ++ [[]]

/-- **A run prints** the result of the text on the standard input, and changes nothing. -/
theorem run_printed {texts : List String} {a : Arguments} (h : Arguments.read texts = .ok a)
    (h_input : a.input = none) (h_output : a.value? .output = none) {t : FileTree}
    {source : String} (h_source : t.readInput = .ok source) :
    (run treeHost texts).run t = (printed (a.draw source), t) := by
  have h_in : a.sourceIn t = .ok source := by
    unfold Arguments.sourceIn
    rw [h_input]
    dsimp only
    rw [h_source]
    rfl
  have h_drawn : a.drawnIn t = .ok (a.draw source) := by
    rw [Arguments.drawnIn, h_in]
    rfl
  generalize h_end : (run treeHost texts).run t = ending
  have h_ends := h_end ▸ ends_run h t
  -- the text was read and no file was asked for, so only two of the five ends are left
  cases h_ends with
  | unread h_unread => cases h_in.symm.trans h_unread
  | undrawn h_fails =>
    rw [← Except.ok.inj ((Arguments.fails_iff.1 h_fails).symm.trans h_drawn)]
    rfl
  | shown h_yields =>
    rw [← Except.ok.inj ((Arguments.yields_iff.1 h_yields).symm.trans h_drawn)]
    rfl
  | written _ h_path | unwritten _ h_path => cases h_output.symm.trans h_path

/-- **A picture that is printed** is the one of the settings and the size. -/
theorem shows_printed (a : Arguments) (source : String) :
    Shows a.commands source a.settings a.width a.height (printed (a.draw source)) := by
  -- the document and what is printed come from the same commands, or fail with the same failure
  cases h : commandsOf source a.settings a.width a.height with
  | error f =>
    have h_document : Svg.ofSource source a.settings a.width a.height = .error f := by
      rw [Svg.ofSource_eq, h]
      rfl
    have h_draw : a.draw source = .error f := by
      rw [a.draw_eq, h]
      rfl
    obtain ⟨h_exit, h_output⟩ := drawingFailure_silent f
    rw [h_draw]
    refine ⟨Or.inr h_exit, iff_of_true h_exit ⟨f, h_document⟩, fun _ => h_output, ?_, ?_⟩
    · intro _
      rw [h_document]
    · intro _ text h_text
      cases h_document.symm.trans h_text
  | ok commands =>
    have h_document := Svg.ofSource_eq source a.settings a.width a.height
    rw [h] at h_document
    have h_draw : a.draw source = .ok (a.present commands) := by
      rw [a.draw_eq, h]
      rfl
    rw [h_draw]
    refine ⟨Or.inl rfl, iff_of_false Nat.zero_ne_one ?_,
      fun h_exit => absurd h_exit Nat.zero_ne_one, ?_, ?_⟩
    · rintro ⟨f, h_fails⟩
      cases h_document.symm.trans h_fails
    · intro h_commands
      rw [h_document, Arguments.present, h_commands]
      rfl
    · -- the lines of the commands are cut again at line breaks, which no description holds
      intro h_commands text _
      obtain ⟨m, h_read, h_drawing⟩ := commandsOf_eq_ok_iff.1 h
      refine ⟨m, commands, h_read, h_drawing, rfl, rfl, ?_⟩
      change (a.present commands).toList.splitOn '\n' = _
      rw [Arguments.present, h_commands]
      exact splitOn_describeAll commands

/-! ### Entry points -/

/-- The numbers that can be chosen without a command line. -/
def sizedKeys : List Key :=
  [.width, .height, .radius, .bendiness]

section Sized

variable {values : List (Key × String)} {settings : Settings Float}
  {width height chosenWidth chosenHeight ringRadius bendiness : Float}

/-- **With no other options** the settings are those of the numbers that can be chosen without a
command line. -/
theorem Chooses.sized (h : Chooses values settings width height)
    (h_values : ∀ v ∈ values, v.1 ∈ sizedKeys)
    (h_width : Selects readFloat? values .width 300 chosenWidth)
    (h_height : Selects readFloat? values .height 300 chosenHeight)
    (h_radius : Selects readFloat? values .radius Settings.standard.ringRadius ringRadius)
    (h_bendiness : Selects readFloat? values .bendiness Settings.standard.bendiness bendiness)
    (source : String) :
    Svg.ofSource source settings width height =
      Svg.ofSourceSized source chosenWidth chosenHeight ringRadius bendiness := by
  -- an option that is not on the list is not given
  have h_none : ∀ {key : Key}, key ∉ sizedKeys → ∀ text, (key, text) ∉ values :=
    fun h_key text h_text => h_key (h_values _ h_text)
  obtain ⟨background, vertexColor, edgeColor, radius, vertexRadius, thickness, arrow, bend⟩ :=
    settings
  obtain rfl : radius = ringRadius := h_radius.unique h.ringRadius
  obtain rfl : bend = bendiness := h_bendiness.unique h.bendiness
  obtain rfl : width = chosenWidth := h_width.unique h.width
  obtain rfl : height = chosenHeight := h_height.unique h.height
  -- all other settings stand as they do when nothing is chosen
  obtain rfl := h.background.2 (h_none (by decide))
  obtain rfl := h.vertexColor.2 (h_none (by decide))
  obtain rfl := h.edgeColor.2 (h_none (by decide))
  obtain rfl := h.vertexRadius.2 (h_none (by decide))
  obtain rfl := h.edgeThickness.2 (h_none (by decide))
  obtain rfl := h.arrowSize.2 (h_none (by decide))
  rfl

end Sized

/-- An option with its standard text may be given if it is not. -/
theorem Asks.cons_standardText {texts : List String} {values : List (Key × String)}
    {commands : Bool} {key : Key} {text : String} (h : Asks texts values commands)
    (h_text : key.standardText? = some text) (h_new : ∀ value, (key, value) ∉ values) :
    Asks (("--" ++ key.long ++ "=" ++ text) :: texts) ((key, text) :: values) commands where
  options := .option (.joined .long) h.options
  once := by
    -- the keys stay without repetition since the new one was not given
    refine List.nodup_cons.2 ⟨fun h_mem => ?_, h.once⟩
    obtain ⟨⟨_, value⟩, h_value, rfl⟩ := List.mem_map.1 h_mem
    exact h_new value h_value
  accepted := by
    refine List.forall_mem_cons.2 ⟨?_, h.accepted⟩
    -- a standard text is accepted, as it is a number wherever one is asked for
    cases key <;> cases h_text <;> decide +kernel

section Printing

variable {texts : List String} {values : List (Key × String)} {commands : Bool} {t : FileTree}
  {source : String}

/-- What a command line of options that names no output file prints. -/
theorem run_asks (h : Asks texts values commands) (h_output : ∀ path, (.output, path) ∉ values)
    (h_source : t.readInput = .ok source) :
    (run treeHost texts).run t = (printed ((argumentsOf values commands).draw source), t) := by
  have h_read := (Arguments.read_eq_ok_iff.2 ⟨values, commands, h, rfl⟩).1
  exact run_printed h_read rfl ((value?_eq_none_iff h).2 h_output) h_source

/-- **Nothing is chosen** without options. -/
theorem run_nil (h_source : t.readInput = .ok source) :
    (run treeHost []).run t = (printed (Svg.ofSourceStandard source), t) := by
  have h_asks : Asks [] [] false := ⟨.nil, List.nodup_nil, by simp⟩
  rw [run_asks h_asks (by simp) h_source]
  rfl

/-- **Options for the numbers** that can be chosen without a command line print the document of
these numbers. -/
theorem run_sized {width height ringRadius bendiness : Float} (h : Asks texts values false)
    (h_values : ∀ v ∈ values, v.1 ∈ sizedKeys)
    (h_width : Selects readFloat? values .width 300 width)
    (h_height : Selects readFloat? values .height 300 height)
    (h_radius : Selects readFloat? values .radius Settings.standard.ringRadius ringRadius)
    (h_bendiness : Selects readFloat? values .bendiness Settings.standard.bendiness bendiness)
    (h_source : t.readInput = .ok source) :
    (run treeHost texts).run t =
      (printed (Svg.ofSourceSized source width height ringRadius bendiness), t) := by
  have h_output : ∀ path, (Key.output, path) ∉ values := by
    intro path h_path
    have h_none : Key.output ∉ sizedKeys := by decide
    exact h_none (h_values _ h_path)
  have h_same := (chooses_of_asks h).sized h_values h_width h_height h_radius h_bendiness source
  rw [run_asks h h_output h_source, ← h_same]
  rfl

/-- A picture depends on its source text and on what is chosen for it alone. -/
theorem draw_eq_of_chooses {values' : List (Key × String)} (h : Asks texts values commands)
    (h' : Chooses values (argumentsOf values' commands).settings
      (argumentsOf values' commands).width (argumentsOf values' commands).height)
    (source : String) :
    (argumentsOf values' commands).draw source = (argumentsOf values commands).draw source := by
  obtain ⟨h_settings, h_width, h_height⟩ := (chooses_of_asks h).unique h'
  rw [Arguments.draw, Arguments.draw, h_settings, h_width, h_height]

/-- **An option with its standard text** makes no difference where it was not given. -/
theorem run_cons_standardText {key : Key} {text : String} (h : Asks texts values commands)
    (h_output : ∀ path, (.output, path) ∉ values) (h_text : key.standardText? = some text)
    (h_new : ∀ value, (key, value) ∉ values) (h_source : t.readInput = .ok source) :
    (run treeHost (("--" ++ key.long ++ "=" ++ text) :: texts)).run t =
      (run treeHost texts).run t := by
  have h_more := h.cons_standardText h_text h_new
  -- the name of an output file has no standard text, so the new option is not that one
  have h_output' : ∀ path, (Key.output, path) ∉ (key, text) :: values := by
    intro path h_path
    rcases List.mem_cons.1 h_path with h_path | h_path
    · cases h_path
      cases h_text
    · exact h_output path h_path
  -- both command lines choose the same, and more does not enter into a picture
  have h_draw := draw_eq_of_chooses h_more
    ((chooses_of_asks h).cons_standardText h_text h_new) source
  rw [run_asks h_more h_output' h_source, run_asks h h_output h_source, ← h_draw]

end Printing

/-- **All entry points draw the same picture.**

* Every command line that is accepted and names neither an input nor an output file is one of
  options, each given once. For any text on the standard input it prints the document of the
  settings and the size that the options choose, or with the option for commands one line for every
  command of its drawing, whatever the paints, and it fails exactly if there is no such document.
* With options for the size, the radius of the ring and the bendiness alone, in any order and
  spelling, it prints the document of these numbers, and with no options at all the one of a source
  text with nothing chosen.
* To give an option the text that stands for it when it is not given makes no difference. -/
theorem entry_points_agree :
    (∀ (texts : List String) (a : Arguments), Arguments.read texts = .ok a → a.input = none →
      a.value? .output = none →
      ∃ values settings width height, Asks texts values a.commands ∧
        Chooses values settings width height ∧
        ∀ (t : FileTree) (source : String), t.readInput = .ok source →
          ∃ outcome, (run treeHost texts).run t = (outcome, t) ∧
            Shows a.commands source settings width height outcome) ∧
    (∀ (texts : List String) (values : List (Key × String))
      (width height ringRadius bendiness : Float),
      Asks texts values false → (∀ v ∈ values, v.1 ∈ sizedKeys) →
      Selects readFloat? values .width 300 width →
      Selects readFloat? values .height 300 height →
      Selects readFloat? values .radius Settings.standard.ringRadius ringRadius →
      Selects readFloat? values .bendiness Settings.standard.bendiness bendiness →
      ∀ (t : FileTree) (source : String), t.readInput = .ok source →
        (run treeHost texts).run t =
          (printed (Svg.ofSourceSized source width height ringRadius bendiness), t)) ∧
    (∀ (t : FileTree) (source : String), t.readInput = .ok source →
      (run treeHost []).run t = (printed (Svg.ofSourceStandard source), t)) ∧
    ∀ (texts : List String) (values : List (Key × String)) (commands : Bool) (key : Key)
      (text : String), Asks texts values commands → (∀ path, (.output, path) ∉ values) →
      key.standardText? = some text → (∀ value, (key, value) ∉ values) →
      ∀ (t : FileTree) (source : String), t.readInput = .ok source →
        (run treeHost (("--" ++ key.long ++ "=" ++ text) :: texts)).run t =
          (run treeHost texts).run t := by
  refine ⟨?options, ?sized, ?nothing, ?standard⟩
  case options =>
    intro texts a h_read h_input h_output
    -- without an input file all arguments are options
    obtain ⟨values, commands, h_asks, rfl⟩ := Arguments.read_eq_ok_iff.1 ⟨h_read, h_input⟩
    refine ⟨values, _, _, _, h_asks, chooses_of_asks h_asks, fun t source h_source => ?_⟩
    exact ⟨_, run_printed h_read h_input h_output h_source, shows_printed _ source⟩
  case sized =>
    intro _ _ _ _ _ _ h_asks h_values h_width h_height h_radius h_bendiness _ _ h_source
    exact run_sized h_asks h_values h_width h_height h_radius h_bendiness h_source
  case nothing =>
    intro _ _ h_source
    exact run_nil h_source
  case standard =>
    intro _ _ _ _ _ h_asks h_output h_text h_new _ _ h_source
    exact run_cons_standardText h_asks h_output h_text h_new h_source

/-- A command line with options for a size and a paint that is no single line. -/
private def manyLines : List String :=
  ["-r50", "--edge-color", "red\nblue", "--commands", "--width=200"]

/-- A loop on the standard input. -/
private def loopOnInput : FileTree where
  input := "a\na-a".toUTF8

/-- A command line that chooses a width and a radius. -/
private def smaller : List String :=
  ["--width=200", "-r", "50"]

/-- The values that it gives. -/
private def smallerValues : List (Key × String) :=
  [(.width, "200"), (.radius, "50")]

private theorem asks_smaller : Asks smaller smallerValues false := by
  have h_width : Key.width.Joined "200" "--width=200" :=
    (by decide : "--" ++ Key.width.long ++ "=" ++ "200" = "--width=200") ▸ .long
  have h_radius : Key.radius.Named "-r" :=
    (by decide : String.ofList ['-', 'r'] = "-r") ▸ .short rfl
  constructor
  case options => exact .option (.joined h_width) (.option (.apart h_radius (by decide)) .nil)
  case once => decide
  case accepted => decide +kernel

private theorem selects_smaller {key : Key} {standard selected : Float}
    (h_number : key.isText = false)
    (h : (argumentsOf smallerValues false).number key standard = selected) :
    Selects readFloat? smallerValues key standard selected :=
  h ▸ selects_number asks_smaller h_number standard

/-- The commands stand on lines of their own, although the paint is on two; a smaller picture is the
one of its numbers, also where a standard text is given. -/
theorem entry_points_agree_on_loop :
    (∃ values settings width height outcome, Asks manyLines values true ∧
      Chooses values settings width height ∧
      (run treeHost manyLines).run loopOnInput = (outcome, loopOnInput) ∧
      Shows true "a\na-a" settings width height outcome) ∧
    (run treeHost smaller).run loopOnInput =
      (printed (Svg.ofSourceSized "a\na-a" 200 300 50 10), loopOnInput) ∧
    (run treeHost ("--bendiness=10" :: smaller)).run loopOnInput =
      (run treeHost smaller).run loopOnInput := by
  have h_source : loopOnInput.readInput = .ok "a\na-a" := by decide +kernel
  refine ⟨?_, ?_, ?_⟩
  · have h_read : Arguments.read manyLines = .ok {
        values := [(.width, "200"), (.edgeColor, "red\nblue"), (.radius, "50")]
        commands := true } := by
      decide +kernel
    -- the arguments are accepted and name no file
    obtain ⟨values, settings, width, height, h_asks, h_chooses, h_run⟩ :=
      entry_points_agree.1 _ _ h_read rfl (by decide)
    obtain ⟨outcome, h_outcome, h_shows⟩ := h_run loopOnInput _ h_source
    exact ⟨values, settings, width, height, outcome, h_asks, h_chooses, h_outcome, h_shows⟩
  · -- the values of the two options are numbers, and the others are the standard ones
    refine entry_points_agree.2.1 _ _ 200 300 50 10 asks_smaller (by decide) ?_ ?_ ?_ ?_ loopOnInput
      _ h_source
    all_goals exact selects_smaller rfl (by decide +kernel)
  · -- the bendiness that is given is the standard one, and nothing else gives it
    exact entry_points_agree.2.2.2 _ _ _ .bendiness "10" asks_smaller (by simp [smallerValues]) rfl
      (by simp [smallerValues]) loopOnInput _ h_source

end RingDiagram.CommandLine
