import RingDiagram.CommandLine.Program
import RingDiagram.Proofs.CommandLine.Writing
import RingDiagram.Proofs.Drawing.Sources
import RingDiagram.Proofs.Notation.Contract

/-!
# Runs of the program

A run reads a source text, turns it into a result and delivers that. Only the delivery changes
anything, and it comes last, so a run that fails has changed nothing.

* `Arguments.draw_eq` says what the result is, in terms of the commands that the source text comes
  to: reading it or drawing what it denotes may fail (`Arguments.Fails`), and otherwise the text has
  one result (`Arguments.Yields`).
* `ends_run` says how a run may end, together with the file tree that it leaves behind, and
  `AllOrNothing.of_ends` what follows in each case. What becomes of the tree when the result is
  written is known from `FileTree.written_of_writeFile`.
* The line that asks for a report is printed last. Names and paths are quoted in messages, so a
  message may hold that line as well, but it does not end with it: where the input is at fault, the
  last letter of the message is another one (`endsOtherwise_message`).

`run_all_or_nothing` puts this together for all arguments that ask for a drawing.
-/

namespace RingDiagram.CommandLine

/-! ### Results -/

namespace Arguments

/-- The result for the commands of a drawing. -/
def present (a : Arguments) (commands : List (Command Float)) : String :=
  if a.commands then String.join (commands.map fun c => c.describe ++ "\n")
  else (Svg.Document.extend { width := a.width, height := a.height } commands).text

/-- **A source text is drawn** as its commands. -/
theorem draw_eq (a : Arguments) (source : String) :
    a.draw source = (commandsOf source a.settings a.width a.height).map a.present := by
  unfold draw describeCommands Svg.ofSource
  -- both surfaces record what is drawn on them, so they fail alike
  rw [Canvas.records.drawSource_eq_commandsOf, Svg.Document.records.drawSource_eq_commandsOf]
  simp only [Surface.size]
  cases commandsOf source a.settings a.width a.height with
  | error f => exact ite_self _
  | ok commands =>
    change _ = Except.ok (a.present commands)
    unfold present
    split
    · simp [Canvas.extend]
    · rfl

/-- The source text that a run reads, or the reason why there is none. -/
def sourceIn (a : Arguments) (t : FileTree) : Except String String :=
  match a.input with
  | some path => (t.readFile path).mapError fun e => s!"cannot read '{path}': {e.message}"
  | none => t.readInput.mapError fun e => s!"cannot read stdin: {e.message}"

/-- Reading changes nothing. -/
theorem run_source (a : Arguments) (t : FileTree) :
    (a.source treeHost).run t = (a.sourceIn t, t) := by
  unfold source sourceIn
  -- the file is read, or the standard input, and neither of the hosts touches the tree
  cases a.input with
  | none => rfl
  | some path => rfl

/-- What the source text is drawn as, or the reason why there is none. -/
def drawnIn (a : Arguments) (t : FileTree) : Except String (Except Failure String) :=
  (a.sourceIn t).map a.draw

/-- A stage that turns the source text into a result fails. -/
inductive Fails (a : Arguments) (t : FileTree) : Failure → Prop
  | parse {source : String} {e : ParseError} (h_source : a.sourceIn t = .ok source)
    (h_read : Notation.read source = .error e) : Fails a t (.parse e)
  | render {source : String} {m : Model} {e : RenderError} (h_source : a.sourceIn t = .ok source)
    (h_read : Notation.read source = .ok m)
    (h_drawing : m.drawing a.settings a.width a.height = .error e) : Fails a t (.render e)

/-- The source text has a result: it is read, and its model has a drawing. -/
inductive Yields (a : Arguments) (t : FileTree) : String → Prop
  | result {source : String} {m : Model} {commands : List (Command Float)}
    (h_source : a.sourceIn t = .ok source) (h_read : Notation.read source = .ok m)
    (h_drawing : m.drawing a.settings a.width a.height = .ok commands) :
    Yields a t (a.present commands)

variable {a : Arguments} {t : FileTree}

theorem fails_iff {f : Failure} : a.Fails t f ↔ a.drawnIn t = .ok (.error f) := by
  simp only [drawnIn, map_eq_ok_iff, draw_eq, map_eq_error_iff, commandsOf_eq_error_iff]
  constructor
  · -- the failure comes from reading or from drawing, which is how `draw` fails
    intro h
    cases h with
    | parse h_source h_read => exact ⟨_, h_source, Or.inl ⟨_, rfl, h_read⟩⟩
    | render h_source h_read h_drawing =>
      exact ⟨_, h_source, Or.inr ⟨_, _, rfl, h_read, h_drawing⟩⟩
  · -- the failure is that of the stage which fails first
    rintro ⟨source, h_source, ⟨e, rfl, h_read⟩ | ⟨m, e, rfl, h_read, h_drawing⟩⟩
    · exact .parse h_source h_read
    · exact .render h_source h_read h_drawing

theorem yields_iff {result : String} : a.Yields t result ↔ a.drawnIn t = .ok (.ok result) := by
  simp only [drawnIn, map_eq_ok_iff, draw_eq, commandsOf_eq_ok_iff]
  constructor
  · rintro ⟨h_source, h_read, h_drawing⟩
    exact ⟨_, h_source, _, ⟨_, h_read, h_drawing⟩, rfl⟩
  · rintro ⟨source, h_source, commands, ⟨m, h_read, h_drawing⟩, rfl⟩
    exact .result h_source h_read h_drawing

/-- The stages fail in one way. -/
theorem Fails.unique {f f' : Failure} (h : a.Fails t f) (h' : a.Fails t f') : f' = f := by
  have h_same := (fails_iff.1 h').symm.trans (fails_iff.1 h)
  exact Except.error.inj (Except.ok.inj h_same)

/-- There is one result. -/
theorem Yields.unique {result result' : String} (h : a.Yields t result)
    (h' : a.Yields t result') : result' = result := by
  have h_same := (yields_iff.1 h').symm.trans (yields_iff.1 h)
  exact Except.ok.inj (Except.ok.inj h_same)

/-- Where there is a result, no stage has failed. -/
theorem Yields.not_fails {result : String} (h : a.Yields t result) (f : Failure) :
    ¬ a.Fails t f := by
  intro h_f
  have h_same := (fails_iff.1 h_f).symm.trans (yields_iff.1 h)
  cases Except.ok.inj h_same

/-- Without a source text no stage is reached. -/
theorem not_reached {reason : String} (h : a.sourceIn t = .error reason) :
    (∀ f, ¬ a.Fails t f) ∧ ∀ result, ¬ a.Yields t result := by
  have h_drawn : a.drawnIn t = .error reason := map_eq_error_iff.2 h
  constructor
  · -- without a source text there is nothing that could be drawn
    intro f h_f
    cases h_drawn.symm.trans (fails_iff.1 h_f)
  · intro result h_result
    cases h_drawn.symm.trans (yields_iff.1 h_result)

/-- Reading the notation is never the fault of the program. -/
theorem Fails.blame_parse {e : ParseError} (h : a.Fails t (.parse e)) : e.blame = .input := by
  cases h with
  | parse _ h_read => exact Notation.blame_of_read h_read

end Arguments

/-! ### Ends of a run -/

/-- **How a run ends**: what it shows, and the tree that it leaves behind. -/
inductive Ends (a : Arguments) (t : FileTree) : Outcome × FileTree → Prop
  | unread {reason : String} (h : a.sourceIn t = .error reason) : Ends a t (failure reason, t)
  | undrawn {f : Failure} (h : a.Fails t f) : Ends a t (drawingFailure f, t)
  | shown {result : String} (h : a.Yields t result) (h_output : a.value? .output = none) :
    Ends a t (⟨0, result, ""⟩, t)
  | written {result path : String} {t' : FileTree} (h : a.Yields t result)
    (h_output : a.value? .output = some path) (h_write : t.writeFile path result = .ok t') :
    Ends a t (⟨0, "", ""⟩, t')
  | unwritten {result path : String} {e : FileError} (h : a.Yields t result)
    (h_output : a.value? .output = some path) (h_write : t.writeFile path result = .error e) :
    Ends a t (failure s!"cannot write '{path}': {e.message}", t)

/-- Writing changes the tree, or fails and leaves it as it is. -/
theorem run_writeFile (path text : String) (t : FileTree) :
    (treeHost.writeFile path text).run t =
      match t.writeFile path text with
      | .error e => (.error e, t)
      | .ok t' => (.ok (), t') := by
  change StateT.run (match t.writeFile path text with
    | .error e => return .error e
    | .ok t' => do
      set t'
      return .ok () : StateM FileTree (Except FileError Unit)) t = _
  cases t.writeFile path text with
  | error e => rfl
  | ok t' => rfl

/-- A result is delivered. -/
theorem ends_deliver {a : Arguments} {t : FileTree} {result : String} (h : a.Yields t result) :
    Ends a t ((a.deliver treeHost result).run t) := by
  unfold Arguments.deliver
  -- without an output file the result is printed, and the tree is left alone
  cases h_output : a.value? .output with
  | none => exact .shown h h_output
  | some path =>
    dsimp only
    rw [StateT.run_bind, run_writeFile]
    cases h_write : t.writeFile path result with
    | error e => exact .unwritten h h_output h_write
    | ok t' => exact .written h h_output h_write

/-- **Every run ends** in one of these ways. -/
theorem ends_run {texts : List String} {a : Arguments} (h : Arguments.read texts = .ok a)
    (t : FileTree) : Ends a t ((run treeHost texts).run t) := by
  unfold run
  rw [h]
  dsimp only
  -- what is read does not change the tree, so the rest starts from the same one
  rw [StateT.run_bind, Arguments.run_source]
  cases h_source : a.sourceIn t with
  | error reason => exact .unread h_source
  | ok source =>
    -- reading has left the tree as it was, and drawing does not look at it
    change Ends a t (StateT.run (_ : StateM FileTree Outcome) t)
    dsimp only
    cases h_draw : a.draw source with
    | error f => exact .undrawn (Arguments.fails_iff.2 (map_eq_ok_iff.2 ⟨source, h_source, h_draw⟩))
    | ok result =>
      have h_yields := Arguments.yields_iff.2 (map_eq_ok_iff.2 ⟨source, h_source, h_draw⟩)
      exact ends_deliver h_yields

/-- A run that failed to draw says so and prints nothing. -/
theorem drawingFailure_silent (f : Failure) :
    (drawingFailure f).exitCode = 1 ∧ (drawingFailure f).output = "" := by
  unfold drawingFailure
  cases f.blame with
  | input => exact ⟨rfl, rfl⟩
  | program => exact ⟨rfl, rfl⟩

/-! ### The line that asks for a report -/

/-- The last line on the standard error asks for a report. Names and paths may hold anything, so the
line is looked for at the end only. -/
def Outcome.Reports (outcome : Outcome) : Prop :=
  reportLine.toList <:+ outcome.errors.toList

/-- The text has a last letter, and not that of the line that asks for a report. -/
def endsOtherwise (text : String) : Bool :=
  text.toList.getLast?.any (· != 't')

/-- A text ends as its last part does. -/
theorem endsOtherwise_append (x : String) {y : String} (h : endsOtherwise y = true) :
    endsOtherwise (x ++ y) = true := by
  unfold endsOtherwise at h ⊢
  rw [String.toList_append, List.getLast?_append]
  -- the last letter is that of the second part, unless this is empty
  cases h_last : y.toList.getLast? with
  | none =>
    rw [h_last] at h
    cases h
  | some c =>
    rw [h_last] at h
    exact h

theorem endsOtherwise_toString (n : Nat) : endsOtherwise (toString n) = true := by
  have h_digits : (toString n).toList = Nat.toDigits 10 n := Nat.toList_repr
  have h_last := List.getLast?_eq_some_getLast (Nat.toDigits_ne_nil (n := n) (b := 10))
  -- the last letter of a number is a digit
  have h_digit := Nat.isDigit_of_mem_toDigits (by decide) (by decide)
    (List.mem_of_getLast? h_last)
  unfold endsOtherwise
  rw [h_digits, h_last, Option.any_some, bne_iff_ne]
  intro h_t
  rw [h_t] at h_digit
  cases h_digit

theorem FileError.endsOtherwise_message (e : FileError) : endsOtherwise e.message = true := by
  have h_system : ∀ reason code, endsOtherwise (systemMessage reason code) = true :=
    fun reason code => endsOtherwise_append _ (by decide)
  cases e with
  | notText => decide
  | system reason code => exact h_system reason code
  | missing | accessDenied | isDirectory | notDirectory | nameTooLong | noSpace =>
    exact h_system _ _

/-- The message of a fault of the input ends otherwise. -/
theorem endsOtherwise_message_parse {e : ParseError} (h : e.blame = .input) :
    endsOtherwise e.message = true := by
  -- the messages end with a fixed text, but for the ones that quote a number
  cases e with
  | unknownVertex | unreadableLine | mixedWithMatrix => exact endsOtherwise_append _ (by decide)
  | matrix fault =>
    cases fault with
    -- the one message that ends with a number
    | wrongSize expected rows width => exact endsOtherwise_append _ (endsOtherwise_toString width)
    | asymmetric row column =>
      exact endsOtherwise_append _ (endsOtherwise_append _ (by decide))
    | oddLoop | tooManyEdges => exact endsOtherwise_append _ (by decide)
  | broken text => cases h

theorem endsOtherwise_message {f : Failure} (h : f.blame = .input) :
    endsOtherwise f.message = true := by
  cases f with
  | parse e => exact endsOtherwise_append _ (endsOtherwise_message_parse h)
  | render e =>
    -- an error that is the fault of the input is about an invisible name
    refine endsOtherwise_append _ ?_
    cases e with
    | endsAtInvisible name => exact endsOtherwise_append _ (by decide)
    | noSuchVertex | noArc | surface => cases h

/-- A failure whose reason ends otherwise does not ask for a report. -/
theorem not_reports_failure {reason : String} (h : endsOtherwise reason = true) :
    ¬ (failure reason).Reports := by
  intro h_reports
  -- the report line ends with this letter and a line break
  have h_line : ['t'] ++ ['\n'] <:+ reportLine.toList := by decide
  obtain ⟨before, h_errors⟩ := h_line.trans h_reports
  have h_reason : endsOtherwise ("error: " ++ reason) = true := endsOtherwise_append _ h
  have h_text : before ++ ['t'] = ("error: " ++ reason).toList := by
    change _ = ("error: " ++ reason ++ "\n").toList at h_errors
    rw [String.toList_append, ← List.append_assoc] at h_errors
    exact List.append_cancel_right h_errors
  -- without its line break the message would end with the letter
  unfold endsOtherwise at h_reason
  rw [← h_text, List.getLast?_concat] at h_reason
  cases h_reason

/-- **A run that failed to draw** asks for a report when that is the fault of the program. -/
theorem reports_drawingFailure_iff {f : Failure} :
    (drawingFailure f).Reports ↔ f.blame = .program := by
  unfold drawingFailure
  -- the report line is printed for a fault of the program, and otherwise the message ends in
  -- another way
  cases h : f.blame with
  | input => exact iff_of_false (not_reports_failure (endsOtherwise_message h)) (by decide)
  | program =>
    refine iff_of_true ?_ rfl
    change reportLine.toList <:+ ((failure f.message).errors ++ reportLine).toList
    rw [String.toList_append]
    exact List.suffix_append _ _

/-- A reason why there is no source text ends otherwise. -/
theorem endsOtherwise_of_sourceIn {a : Arguments} {t : FileTree} {reason : String}
    (h : a.sourceIn t = .error reason) : endsOtherwise reason = true := by
  unfold Arguments.sourceIn at h
  split at h
  -- both reasons end with the message of the file error
  all_goals
    obtain ⟨e, -, rfl⟩ := mapError_eq_error_iff.1 h
    exact endsOtherwise_append _ e.endsOtherwise_message

/-! ### All or nothing -/

/-- **All or nothing**: what a run shows and leaves behind that is started in a file tree. -/
structure AllOrNothing (a : Arguments) (t : FileTree) (outcome : Outcome) (t' : FileTree) :
    Prop where
  exitCode : outcome.exitCode = 0 ∨ outcome.exitCode = 1
  /-- A run without a source text, or one of whose stages fails, prints nothing and leaves
  everything as it was. -/
  nothing : ((∃ reason, a.sourceIn t = .error reason) ∨ ∃ f, a.Fails t f) →
    outcome.exitCode = 1 ∧ outcome.output = "" ∧ t' = t
  /-- A run that succeeds puts the whole result into one place. -/
  all : outcome.exitCode = 0 →
    ∃ result, a.Yields t result ∧ outcome.errors = "" ∧
      ((a.value? .output = none ∧ outcome.output = result ∧ t' = t) ∨
        ∃ path, a.value? .output = some path ∧ outcome.output = "" ∧ t.Written path result t')
  /-- A run with a result succeeds, unless the result cannot be written; then it prints nothing and
  leaves everything as it was. -/
  yields : ∀ result, a.Yields t result →
    outcome.exitCode = 0 ∨
      (∃ path e, a.value? .output = some path ∧ t.writeFile path result = .error e) ∧
        outcome.exitCode = 1 ∧ outcome.output = "" ∧ t' = t
  /-- A report is asked for when a stage fails by the fault of the program. -/
  reports : outcome.Reports ↔ ∃ f, a.Fails t f ∧ f.blame = .program

namespace AllOrNothing

variable {a : Arguments} {t t' : FileTree} {result : String}

/-- Where no stage fails, none fails by the fault of the program. -/
theorem reports_iff_of_not_fails {outcome : Outcome} (h : ¬ outcome.Reports)
    (h_fails : ∀ f, ¬ a.Fails t f) :
    outcome.Reports ↔ ∃ f, a.Fails t f ∧ f.blame = .program := by
  refine iff_of_false h ?_
  rintro ⟨f, h_f, -⟩
  exact h_fails f h_f

theorem of_unread {reason : String} (h : a.sourceIn t = .error reason) :
    AllOrNothing a t (failure reason) t := by
  -- without a source text no stage is reached, so none fails and there is no result
  obtain ⟨h_fails, h_yields⟩ := Arguments.not_reached h
  have h_silent := not_reports_failure (endsOtherwise_of_sourceIn h)
  constructor
  case exitCode => exact Or.inr rfl
  case nothing =>
    intro _
    exact ⟨rfl, rfl, rfl⟩
  case all =>
    intro h_zero
    cases h_zero
  case yields =>
    intro result h_result
    exact absurd h_result (h_yields result)
  case reports => exact reports_iff_of_not_fails h_silent h_fails

theorem of_fails {f : Failure} (h : a.Fails t f) : AllOrNothing a t (drawingFailure f) t := by
  -- the failure is printed on the standard error, and nothing else is done
  have h_exit := drawingFailure_silent f
  constructor
  case exitCode => exact Or.inr h_exit.1
  case nothing =>
    intro _
    exact ⟨h_exit.1, h_exit.2, rfl⟩
  case all =>
    intro h_zero
    rw [h_exit.1] at h_zero
    cases h_zero
  case yields =>
    intro result h_result
    exact absurd h (h_result.not_fails f)
  case reports =>
    rw [reports_drawingFailure_iff]
    constructor
    · intro h_blame
      exact ⟨f, h, h_blame⟩
    · -- there is no other failure that could be the fault of the program
      rintro ⟨f', h_f', h_blame⟩
      rw [← h.unique h_f']
      exact h_blame

theorem of_yields {output : String} (h : a.Yields t result)
    (h_place : (a.value? .output = none ∧ output = result ∧ t' = t) ∨
      ∃ path, a.value? .output = some path ∧ output = "" ∧ t.Written path result t') :
    AllOrNothing a t ⟨0, output, ""⟩ t' := by
  have h_silent : ¬ reportLine.toList <:+ "".toList := by decide
  constructor
  case exitCode => exact Or.inl rfl
  case nothing =>
    -- there is a result, so there was a source text and no stage failed
    rintro (⟨reason, h_source⟩ | ⟨f, h_f⟩)
    · exact absurd h ((Arguments.not_reached h_source).2 result)
    · exact absurd h_f (h.not_fails f)
  case all =>
    intro _
    exact ⟨result, h, rfl, h_place⟩
  case yields =>
    intro _ _
    exact Or.inl rfl
  case reports => exact reports_iff_of_not_fails h_silent h.not_fails

theorem of_unwritten {path : String} {e : FileError} (h : a.Yields t result)
    (h_output : a.value? .output = some path) (h_write : t.writeFile path result = .error e) :
    AllOrNothing a t (failure s!"cannot write '{path}': {e.message}") t := by
  have h_silent := not_reports_failure
    (endsOtherwise_append s!"cannot write '{path}': " e.endsOtherwise_message)
  constructor
  case exitCode => exact Or.inr rfl
  case nothing =>
    intro _
    exact ⟨rfl, rfl, rfl⟩
  case all =>
    intro h_zero
    cases h_zero
  case yields =>
    -- the result is the one that was to be written
    intro result' h_result
    rw [← h.unique h_result] at h_write
    exact Or.inr ⟨⟨path, e, h_output, h_write⟩, rfl, rfl, rfl⟩
  case reports => exact reports_iff_of_not_fails h_silent h.not_fails

/-- However a run ends, it is all or nothing. -/
theorem of_ends {outcome : Outcome} (h : Ends a t (outcome, t')) :
    AllOrNothing a t outcome t' := by
  -- each of the five ends is one of four cases, as printing and writing both succeed
  cases h with
  | unread h_source => exact of_unread h_source
  | undrawn h_fails => exact of_fails h_fails
  | shown h_yields h_output => exact of_yields h_yields (Or.inl ⟨h_output, rfl, rfl⟩)
  | written h_yields h_output h_write =>
    have h_written := FileTree.written_of_writeFile h_write
    exact of_yields h_yields (Or.inr ⟨_, h_output, rfl, h_written⟩)
  | unwritten h_yields h_output h_write => exact of_unwritten h_yields h_output h_write

/-- No report is asked for on account of the notation. -/
theorem not_reports {outcome : Outcome} (h : AllOrNothing a t outcome t') {e : ParseError}
    (h_e : a.Fails t (.parse e)) : ¬ outcome.Reports := by
  intro h_reports
  obtain ⟨f, h_f, h_blame⟩ := h.reports.1 h_reports
  -- there is one failure, and it is that of reading the notation
  obtain rfl : f = .parse e := h_e.unique h_f
  change e.blame = .program at h_blame
  rw [h_e.blame_parse] at h_blame
  cases h_blame

end AllOrNothing

/-- **Runs are all or nothing.** Whatever drawing the arguments ask for, in whatever file tree and
with whatever standard input, the program exits with 0 or 1. If there is no source text, or reading
or drawing it fails, it exits with 1, prints nothing and leaves everything as it was. If it exits
with 0, the whole result stands in the output file or was given to the device in its place, and
nothing is printed, or the whole result is printed, and everything is as it was. It asks for a
report when a stage fails by the fault of the program, and so never on account of the notation. -/
theorem run_all_or_nothing {texts : List String} {a : Arguments}
    (h : Arguments.read texts = .ok a) (t : FileTree) :
    ∃ outcome t', (run treeHost texts).run t = (outcome, t') ∧ AllOrNothing a t outcome t' ∧
      ∀ e, a.Fails t (.parse e) → ¬ outcome.Reports := by
  have h_run := AllOrNothing.of_ends (ends_run h t)
  exact ⟨_, _, rfl, h_run, fun e h_e => h_run.not_reports h_e⟩

/-- A text that is no notation, and a drawing that stands where the result is asked for. -/
private def oldDrawing : FileTree :=
  .ofFiles [("graph", "a-b"), ("out.svg", "old")] .empty

/-- The run fails, and the old drawing is still there. -/
theorem run_all_or_nothing_undeclared :
    ∃ a, Arguments.read ["graph", "-o", "out.svg"] = .ok a ∧
      Arguments.Fails a oldDrawing (.parse (.unknownVertex "a" 1)) ∧
      oldDrawing.entry? [] = some .folder ∧
      ∃ outcome, (run treeHost ["graph", "-o", "out.svg"]).run oldDrawing = (outcome, oldDrawing) ∧
        outcome.exitCode = 1 ∧ outcome.output = "" ∧ ¬ outcome.Reports := by
  have h_read : Arguments.read ["graph", "-o", "out.svg"] =
      .ok { input := some "graph", values := [(.output, "out.svg")] } := by
    decide +kernel
  have h_source : Arguments.sourceIn { input := some "graph", values := [(.output, "out.svg")] }
      oldDrawing = .ok "a-b" := by
    decide +kernel
  have h_notation : Notation.read "a-b" = .error (.unknownVertex "a" 1) := by decide +kernel
  have h_fails := Arguments.Fails.parse h_source h_notation
  obtain ⟨outcome, t', h_run, h_all, h_parse⟩ := run_all_or_nothing h_read oldDrawing
  obtain ⟨h_exit, h_output, rfl⟩ := h_all.nothing (Or.inr ⟨_, h_fails⟩)
  have h_root := FileTree.entry_root_ofFiles [("graph", "a-b"), ("out.svg", "old")] .empty
  exact ⟨_, h_read, h_fails, h_root, outcome, h_run, h_exit, h_output, h_parse _ h_fails⟩

end RingDiagram.CommandLine
