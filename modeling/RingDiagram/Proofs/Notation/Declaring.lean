import RingDiagram.Proofs.Notation.ChangedFlags
import RingDiagram.Proofs.Notation.FirstFault
import RingDiagram.Proofs.Notation.FlagLetters

/-!
# Sources that declare by mention

Under the `auto` flag a name is declared by its first mention where it would be unknown otherwise.
What the flag does to a source is seen by reading the source under it and without it, line by line.

* Up to the first unknown name the two runs are in step: every name that is found under the one is
  found in the same slot under the other, so nothing is declared and the same edges are added
  (`referencesKeepUp_declaring`). At an unknown name the run without the flag is over, with an error
  that is excused.
* A run that is in step to the end is closed alike, as a matrix does not look at the flag
  (`Draft.close_declaring`); the visible vertices, which the size of the matrix is checked against,
  are the same.
* A run under the flag never fails for an unknown name, since no line mentions one
  (`read_ne_unknown`).
-/

namespace RingDiagram

/-- The flags with the `auto` flag on. -/
def Flags.declaring (flags : Flags) : Flags :=
  { flags with auto := true }

theorem Flags.ofLetters_a_cons (letters : List Char) :
    Flags.ofLetters ('a' :: letters) = (Flags.ofLetters letters).declaring := by
  simp [Flags.ofLetters, Flags.declaring]

/-- An edge names a vertex that no line has declared. -/
def ParseError.IsUnknown (e : ParseError) : Prop :=
  ∃ name line, e = .unknownVertex name line

/-! ### The two runs -/

/-- **One reference** is in step: a name that is found is found in the same slot, and one that is
not found is excused. -/
theorem referencesKeepUp_declaring :
    ReferencesKeepUp ParseError.IsUnknown Flags.declaring := by
  intro m line name
  -- the two models differ in the flag alone, and the names are looked up in the vertices
  have h_find : (m.mapFlags Flags.declaring).find? name = m.find? name := rfl
  have h_auto : (m.mapFlags Flags.declaring).flags.auto = true := rfl
  unfold Model.refer
  rw [h_find, h_auto]
  cases m.find? name with
  | some index => exact .of_eq_map rfl
  | none =>
    by_cases h_declared : m.flags.auto
    · -- the flag was on before
      simp only [h_declared]
      exact .of_eq_map rfl
    · simp only [h_declared]
      exact .of_excused ⟨name, line, rfl⟩ _

namespace Notation

/-- A draft is closed alike under the flag: a matrix does not look at it. -/
theorem Draft.close_declaring (d : Draft) :
    (d.mapFlags Flags.declaring).close = d.close.map (Model.mapFlags Flags.declaring) := by
  -- the table of slots and whether the matrix is read as directed stay as they are
  have h_expand : d.matrix.expand d.model.flags.declaring d.model.visibleSlots =
      d.matrix.expand d.model.flags d.model.visibleSlots := rfl
  have h_declaring : (d.mapFlags Flags.declaring).close =
      if d.matrix.isEmpty then .ok (d.model.mapFlags Flags.declaring)
      else d.matrix.expand d.model.flags.declaring d.model.visibleSlots >>= fun edges =>
        .ok { d.model.mapFlags Flags.declaring with edges := d.model.edges ++ edges } := rfl
  rw [h_declaring, h_expand, close]
  split
  · rfl
  · rw [bind_map_eq]
    rfl

/-! ### Whole sources -/

variable {source : String} {letters : List Char}

theorem isLetter_a : IsLetter 'a' := ⟨by decide, by decide⟩

/-- **The source with the letter** keeps up with the one without it. -/
theorem read_withLetter_keepsUp (h : OpensWith letters source) :
    KeepsUp ParseError.IsUnknown (Model.mapFlags Flags.declaring) (read source)
      (read (withLetter 'a' source)) := by
  obtain ⟨rest, h_rest, h_read, h_read'⟩ := exists_read_withLetter isLetter_a h
  -- the source with the letter starts from the model of the other with the flag on
  have h_opened : Draft.opened (some (.ofLetters ('a' :: letters))) =
      (Draft.opened (some (.ofLetters letters))).mapFlags Flags.declaring := by
    rw [Flags.ofLetters_a_cons]
    rfl
  have h_run := Draft.addReadings_keepUp referencesKeepUp_declaring
    (Draft.opened (some (.ofLetters letters))) h_rest
  rw [h_read, h_read', h_opened]
  exact h_run.bind fun d _ => .of_eq_map d.close_declaring

/-- A source that opens with the flag does not fail for an unknown name. -/
theorem read_ne_unknown {number : Nat} {modes : Flags} {rest : List Reading}
    (h : readings source = (number, some (.flags modes)) :: rest) (h_auto : modes.auto = true)
    (name : String) (line : Nat) : read source ≠ .error (.unknownVertex name line) := by
  intro h_read
  -- such an error would be about one line of the source
  have h_fault := (read_eq_error_iff_of_line? rfl).1 h_read
  obtain ⟨before, ⟨line', form⟩, after, h_split, -, h_at⟩ := exists_of_firstFault? h_fault
  obtain rfl : line = line' := Option.some.inj (line?_of_faultAfter? h_at)
  obtain ⟨l, h_form, h_off, h_unknown⟩ := unknown_of_faultAfter? h_at
  rw [h] at h_split
  cases before with
  | nil =>
    -- the flags line mentions no name
    obtain ⟨h_first, -⟩ := List.cons.inj h_split
    obtain rfl : l = .flags modes := by
      rw [← Option.some.inj (h_form.symm.trans (Prod.mk.inj h_first).2.symm)]
    cases h_unknown
  | cons r before =>
    -- any other line comes after it
    obtain ⟨rfl, -⟩ := List.cons.inj h_split
    have h_on : modes.auto = false := h_off
    rw [h_auto] at h_on
    cases h_on

/-- **The `auto` flag only repairs unknown names.** Let a source open with a flags line, and write
the letter of the flag behind its hyphen. If the source denotes a model, it now denotes the same
model with the flag on: no vertex is added or moved, and no edge. If it fails for another reason
than an unknown name, it fails with the same error. And it never fails for an unknown name. -/
theorem declaring_repairs (h : OpensWith letters source) :
    (∀ m, read source = .ok m →
      read (withLetter 'a' source) = .ok { m with flags := { m.flags with auto := true } }) ∧
    (∀ e, read source = .error e → (∀ name line, e ≠ .unknownVertex name line) →
      read (withLetter 'a' source) = .error e) ∧
    ∀ name line, read (withLetter 'a' source) ≠ .error (.unknownVertex name line) := by
  have h_keeps := read_withLetter_keepsUp h
  obtain ⟨number, rest, -, -, h_readings⟩ := readings_withLetter isLetter_a h
  have h_auto : (Flags.ofLetters ('a' :: letters)).auto = true := by
    rw [Flags.ofLetters_a_cons]
    rfl
  refine ⟨h_keeps.ok, fun e h_e h_known => h_keeps.error e h_e ?_,
    read_ne_unknown h_readings h_auto⟩
  rintro ⟨name, line, h_unknown⟩
  exact h_known name line h_unknown

/-- A source that declares all its names, with a matrix around an invisible one. -/
private def settled : String := "// two\n\t-d // directed\na, _x\nb\n0 2\n10"

/-- The model of the source that declares all its names. -/
private def settledModel : Model where
  flags := { directed := true }
  vertices := ["a", "_x", "b"]
  edges := [⟨0, 2⟩, ⟨0, 2⟩, ⟨2, 0⟩]

/-- A source with a matrix that is too large. -/
private def oversized : String := "-s\na\n02\n20"

/-- A source with a name that no line declares, and a row after it that clashes with the edge. -/
private def unsettled : String := "-\na\na-b\n01"

/-- The model stays the same and so does the size that the matrix is checked against. The name that
was unknown is declared, and the next fault comes to light. -/
theorem declaring_repairs_settled_unsettled :
    (OpensWith ['d'] settled ∧ read settled = .ok settledModel ∧
      read (withLetter 'a' settled) =
        .ok { settledModel with flags := { directed := true, auto := true } }) ∧
    (OpensWith ['s'] oversized ∧ read oversized = .error (.matrix (.wrongSize 1 2 2)) ∧
      read (withLetter 'a' oversized) = .error (.matrix (.wrongSize 1 2 2))) ∧
    OpensWith [] unsettled ∧ read unsettled = .error (.unknownVertex "b" 3) ∧
      read (withLetter 'a' unsettled) = .error (.mixedWithMatrix 4) ∧
      read (withLetter 'a' unsettled) ≠ .error (.unknownVertex "b" 3) := by
  have h_settled : OpensWith ['d'] settled := by
    unfold OpensWith
    decide +kernel
  have h_oversized : OpensWith ['s'] oversized := by
    unfold OpensWith
    decide +kernel
  have h_unsettled : OpensWith [] unsettled := by
    unfold OpensWith
    decide +kernel
  have h_read : read settled = .ok settledModel := by decide +kernel
  -- a matrix of the wrong size is no unknown name, so this error stays
  have h_error : read oversized = .error (.matrix (.wrongSize 1 2 2)) := by decide +kernel
  obtain ⟨h_model, -, -⟩ := declaring_repairs h_settled
  obtain ⟨-, h_same, -⟩ := declaring_repairs h_oversized
  obtain ⟨-, -, h_known⟩ := declaring_repairs h_unsettled
  exact ⟨⟨h_settled, h_read, h_model _ h_read⟩,
    ⟨h_oversized, h_error, h_same _ h_error fun _ _ h => nomatch h⟩,
    h_unsettled, by decide +kernel, by decide +kernel, h_known "b" 3⟩

end Notation

end RingDiagram
