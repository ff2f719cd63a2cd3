import RingDiagram.Proofs.Notation.Comments
import RingDiagram.Proofs.Notation.Contents
import RingDiagram.Proofs.Notation.Renumbering

/-!
# Edits that carry no meaning

Comments, blank lines, indentation and line endings may be changed at will. A script of `Edit`s goes
along the lines of a text and keeps, inserts and removes lines: those inserted and removed are
`Idle`, and a line that is kept may be `Dressed` in blanks and a comment. A carriage return is a
blank, so a text with other line endings is one whose lines are dressed.

* A script leaves the kept lines of a text as they are and moves them to other places
  (`keptFrom_newLines`); `moved` gives the number that a line has afterwards.
* As reading commutes with renumbering, so it does with editing: `read_edited`.
-/

namespace RingDiagram.Notation

open Text

/-! ### Edits -/

/-- What an edit does with one line. -/
inductive Edit where
  | keep (line line' : List Char) (h : Dressed line line')
  | insert (line : List Char) (h : Idle line)
  | remove (line : List Char) (h : Idle line)

/-- The lines that a script is for. -/
def oldLines : List Edit → List (List Char)
  | [] => []
  | .keep line _ _ :: rest => line :: oldLines rest
  | .insert _ _ :: rest => oldLines rest
  | .remove line _ :: rest => line :: oldLines rest

/-- The lines that a script leaves. -/
def newLines : List Edit → List (List Char)
  | [] => []
  | .keep _ line' _ :: rest => line' :: newLines rest
  | .insert line _ :: rest => line :: newLines rest
  | .remove _ _ :: rest => newLines rest

/-- The number that a line has after a script, if the lines that the script is for are counted from
`old` on and those it leaves from `new` on. -/
def movedFrom (old new : Nat) : List Edit → Nat → Nat
  | [], number => number
  | .keep _ _ _ :: rest, number =>
    if number = old then new else movedFrom (old + 1) (new + 1) rest number
  | .insert _ _ :: rest, number => movedFrom old (new + 1) rest number
  | .remove _ _ :: rest, number => movedFrom (old + 1) new rest number

/-- The number that a line has after a script. -/
def moved (script : List Edit) : Nat → Nat :=
  movedFrom 1 1 script

/-- **A script moves the kept lines** and leaves what they say. -/
theorem keptFrom_newLines (script : List Edit) (old new : Nat) :
    keptFrom new ((newLines script).map content) =
      (keptFrom old ((oldLines script).map content)).map fun kept =>
        ⟨movedFrom old new script kept.number, kept.text⟩ := by
  -- both texts are counted along, so the numbers go on with the induction
  induction script generalizing old new with
  | nil => rfl
  | cons edit rest ih =>
    cases edit with
    | keep line line' h =>
      have h_later : (keptFrom (old + 1) ((oldLines rest).map content)).map (fun kept =>
          (⟨movedFrom old new (.keep line line' h :: rest) kept.number, kept.text⟩ : KeptLine)) =
          keptFrom (new + 1) ((newLines rest).map content) := by
        rw [ih (old + 1) (new + 1)]
        refine List.map_congr_left fun kept h_kept => ?_
        -- a later line has a greater number
        have h_number := (getElem?_of_mem_keptFrom h_kept).1
        rw [movedFrom, if_neg (by omega)]
      rw [oldLines, newLines, List.map_cons, List.map_cons, keptFrom_cons, keptFrom_cons,
        List.map_append, h_later, h.content_eq]
      congr 1
      -- the line says what it said, and if that is anything it stands under the new number now
      by_cases h_text : (content line).isEmpty
      · simp [h_text]
      · simp [h_text, movedFrom]
    | insert line h =>
      -- an inserted line says nothing, so it takes a number and keeps no line
      rw [oldLines, newLines, List.map_cons, keptFrom_cons, h.content_eq_nil]
      exact ih old (new + 1)
    | remove line h =>
      rw [oldLines, newLines, List.map_cons, keptFrom_cons, h.content_eq_nil]
      exact ih (old + 1) new

/-- A kept line is one that the script keeps, and it is moved to where the script leaves it. -/
theorem exists_keep_of_mem_keptFrom {script : List Edit} {old : Nat} {kept : KeptLine}
    (h : kept ∈ keptFrom old ((oldLines script).map content)) (new : Nat) :
    ∃ earlier line line' h_line later, script = earlier ++ .keep line line' h_line :: later ∧
      kept.number = old + (oldLines earlier).length ∧
      movedFrom old new script kept.number = new + (newLines earlier).length := by
  induction script generalizing old new with
  | nil => cases h
  | cons edit rest ih =>
    cases edit with
    | keep line line' h_line =>
      rw [oldLines, List.map_cons, mem_keptFrom_cons] at h
      -- the line itself, or one after it
      rcases h with ⟨-, rfl⟩ | h_later
      · refine ⟨[], line, line', h_line, rest, rfl, rfl, ?_⟩
        rw [movedFrom, if_pos rfl]
        rfl
      · have h_number := (getElem?_of_mem_keptFrom h_later).1
        obtain ⟨earlier, l, l', h_l, later, rfl, h_old, h_new⟩ := ih h_later (new + 1)
        refine ⟨.keep line line' h_line :: earlier, l, l', h_l, later, rfl, ?_, ?_⟩
        · rw [h_old, oldLines, List.length_cons]
          omega
        · rw [movedFrom, if_neg (by omega), h_new, newLines, List.length_cons]
          omega
    -- the text that the script is for has no line here
    | insert line h_line =>
      rw [oldLines] at h
      obtain ⟨earlier, l, l', h_l, later, rfl, h_old, h_new⟩ := ih h (new + 1)
      refine ⟨.insert line h_line :: earlier, l, l', h_l, later, rfl, h_old, ?_⟩
      rw [movedFrom, h_new, newLines, List.length_cons]
      omega
    | remove line h_line =>
      rw [oldLines, List.map_cons, keptFrom_cons, h_line.content_eq_nil] at h
      -- it says nothing, so it is another line that is kept
      obtain ⟨earlier, l, l', h_l, later, rfl, h_old, h_new⟩ := ih h new
      refine ⟨.remove line h_line :: earlier, l, l', h_l, later, rfl, ?_, ?_⟩
      · rw [h_old, oldLines, List.length_cons]
        omega
      · rw [movedFrom, h_new, newLines]

/-! ### Reading an edited text -/

section Edited

variable {source source' : String} {script : List Edit}

/-- The kept lines of an edited text are classified as they were before. -/
theorem readings_edited (h_old : lines source.toList = oldLines script)
    (h_new : lines source'.toList = newLines script) :
    readings source' = (readings source).map fun r => (moved script r.1, r.2) := by
  unfold readings
  rw [keptLines_eq, keptLines_eq, contents, contents, h_old, h_new, keptFrom_newLines script 1 1]
  exact classified_map (moved script) _

/-- **Edits carry no meaning.** Let a script keep some lines of a text, with more blanks at their
ends and comments behind them, and insert and remove lines that are blank or hold a comment alone.
The edited text has the same model, or the same error with the number that its line now has. The
forms of its lines are the same, so a flags line that comes first still does, behind any number of
idle lines. The line that an error is about is one that was kept. -/
theorem read_edited (h_old : lines source.toList = oldLines script)
    (h_new : lines source'.toList = newLines script) :
    read source' = (read source).mapError (·.renumber (moved script)) ∧
    forms source' = forms source ∧
    ∀ e number, read source = .error e → e.line? = some number →
      ∃ earlier line line' h_line later, script = earlier ++ .keep line line' h_line :: later ∧
        number = 1 + (oldLines earlier).length ∧
        moved script number = 1 + (newLines earlier).length := by
  have h_readings := readings_edited h_old h_new
  refine ⟨read_renumber (moved script) h_readings, ?_, fun e number h_read h_line => ?_⟩
  · unfold forms
    rw [h_readings, List.map_map]
    rfl
  · -- the error is about a kept line
    have h_fault := (read_eq_error_iff_of_line? h_line).1 h_read
    obtain ⟨r, h_r, h_number⟩ := exists_mem_of_firstFault? h_fault
    obtain ⟨kept, h_kept, h_same⟩ := exists_of_mem_classified h_r
    rw [h_line, h_same] at h_number
    obtain rfl := Option.some.inj h_number
    rw [keptLines_eq, contents, h_old] at h_kept
    exact exists_keep_of_mem_keptFrom h_kept 1

end Edited

/-- A source whose third line cannot be read because of a slash. -/
private def slashed : String := "-d\na, b\n(a, b) /"

/-- The same with a heading, indentation, comments and other line endings. -/
private def annotated : String := "// pairs\r\n\r\n-d\r\n\ta, b // two\r\n(a, b) / // one\r\n"

/-- How the one becomes the other. -/
private def annotate : List Edit :=
  [.insert "// pairs\r".toList (.comment _),
    .insert "\r".toList (.blank (by decide) .empty),
    .keep "-d".toList "-d\r".toList (.trail (by decide) .same),
    .keep "a, b".toList "\ta, b // two\r".toList
      (.lead (by decide) (.comment (by decide) " two\r".toList .same)),
    .keep "(a, b) /".toList "(a, b) / // one\r".toList (.comment (by decide) " one\r".toList .same),
    .insert [] .empty]

/-- The line that cannot be read is now the fifth. -/
theorem read_edited_annotated :
    lines slashed.toList = oldLines annotate ∧ lines annotated.toList = newLines annotate ∧
      read slashed = .error (.unreadableLine 3) ∧ read annotated = .error (.unreadableLine 5) ∧
      (forms annotated).head? = some (some (.flags { directed := true })) := by
  have h_old : lines slashed.toList = oldLines annotate := by decide +kernel
  have h_new : lines annotated.toList = newLines annotate := by decide +kernel
  have h_read : read slashed = .error (.unreadableLine 3) := by decide +kernel
  have h_first : (forms slashed).head? = some (some (.flags { directed := true })) := by
    decide +kernel
  obtain ⟨h_edited, h_forms, -⟩ := read_edited h_old h_new
  rw [h_read] at h_edited
  rw [h_forms]
  exact ⟨h_old, h_new, h_read, h_edited, h_first⟩

end RingDiagram.Notation
