import RingDiagram.Proofs.Graph.Transposition
import RingDiagram.Proofs.Notation.ChangedFlags
import RingDiagram.Proofs.Notation.FlagLetters

/-!
# Flipped sources

What the `flipped` flag does to a source is what it does to its matrix. The lines are read under it
as they are without it, since references do not look at it (`referencesKeepUp_flip`). The matrix is
expanded at the end, and in an undirected graph its flag is not seen there either
(`AdjacencyMatrix.expand_undirected`). So the letter of the flag makes no difference to an
undirected source but for the flag itself (`read_withLetter_flipped`).
-/

namespace RingDiagram

/-- The flags with the `flipped` flag on. -/
def Flags.flip (flags : Flags) : Flags :=
  { flags with flipped := true }

theorem Flags.ofLetters_f_cons (letters : List Char) :
    Flags.ofLetters ('f' :: letters) = (Flags.ofLetters letters).flip := by
  simp [Flags.ofLetters, Flags.flip]

/-- A flipped model has the references that it has when it is not flipped. -/
theorem referencesKeepUp_flip : ReferencesKeepUp (fun _ => False) Flags.flip := by
  intro m line name
  have h_find : (m.mapFlags Flags.flip).find? name = m.find? name := rfl
  have h_auto : (m.mapFlags Flags.flip).flags.auto = m.flags.auto := rfl
  unfold Model.refer
  rw [h_find, h_auto]
  cases m.find? name with
  | some index => exact .of_eq_map rfl
  | none =>
    -- the name is declared or unknown, under all flags
    by_cases h_declared : m.flags.auto
    · simp only [h_declared]
      exact .of_eq_map rfl
    · simp only [h_declared]
      exact .of_eq_map rfl

namespace Notation

/-- An undirected draft is closed alike whether or not its matrix is flipped. -/
theorem Draft.close_flip {d : Draft} (h : d.model.flags.directed = false) :
    (d.mapFlags Flags.flip).close = d.close.map (Model.mapFlags Flags.flip) := by
  -- the matrix is the one thing left that could tell the flag, and it is read as undirected
  have h_expand : d.matrix.expand d.model.flags.flip d.model.visibleSlots =
      d.matrix.expand d.model.flags d.model.visibleSlots :=
    d.matrix.expand_undirected h true d.model.visibleSlots
  have h_flipped : (d.mapFlags Flags.flip).close =
      if d.matrix.isEmpty then .ok (d.model.mapFlags Flags.flip)
      else d.matrix.expand d.model.flags.flip d.model.visibleSlots >>= fun edges =>
        .ok { d.model.mapFlags Flags.flip with edges := d.model.edges ++ edges } := rfl
  rw [h_flipped, h_expand, close]
  split
  · rfl
  · rw [bind_map_eq]
    rfl

/-! ### Whole sources -/

theorem isLetter_f : IsLetter 'f' := ⟨by decide, by decide⟩

/-- **The letter of the flag** in the flags line of an undirected source turns the flag on and
changes nothing else. -/
theorem read_withLetter_flipped {source : String} {letters : List Char}
    (h : OpensWith letters source) (h_letter : 'd' ∉ letters) :
    read (withLetter 'f' source) = (read source).map (Model.mapFlags Flags.flip) := by
  obtain ⟨rest, h_rest, h_read, h_read'⟩ := exists_read_withLetter isLetter_f h
  -- the flags line opens the one draft and the other, which differ in the flag
  have h_opened : Draft.opened (some (.ofLetters ('f' :: letters))) =
      (Draft.opened (some (.ofLetters letters))).mapFlags Flags.flip := by
    rw [Flags.ofLetters_f_cons]
    rfl
  have h_directed : (Flags.ofLetters letters).directed = false := by
    simpa [Flags.ofLetters] using h_letter
  have h_run := Draft.addReadings_keepUp referencesKeepUp_flip
    (Draft.opened (some (.ofLetters letters))) h_rest
  rw [h_read, h_read', h_opened]
  refine (h_run.bind fun d h_d => .of_eq_map (Draft.close_flip ?_)).eq_map
  -- the lines have left the flags as the flags line set them
  have h_flags : d.model.flags = .ofLetters letters := Draft.flags_of_addReadings h_rest h_d
  rw [h_flags]
  exact h_directed

/-- **Reading flipped is reading the transpose.** A square matrix that is read flipped stands for
what the transposed matrix stands for read plainly, edges in the same order or the same fault of the
same cell. In an undirected graph it makes no difference which of the two is read, be the matrix
square or not, and so a source that opens with a flags line without `d` denotes what it denotes with
an `f` behind the hyphen, a model that has the flag on or the same error. -/
theorem flipping_exact :
    (∀ (m : AdjacencyMatrix) (flags : Flags) (slots : List Nat), m.IsSquare slots.length →
      m.expand { flags with flipped := true } slots =
        m.transpose.expand { flags with flipped := false } slots) ∧
    (∀ (m : AdjacencyMatrix) (flags : Flags) (slots : List Nat), flags.directed = false →
      m.expand { flags with flipped := true } slots =
        m.expand { flags with flipped := false } slots) ∧
    ∀ (source : String) (letters : List Char), OpensWith letters source → 'd' ∉ letters →
      read (withLetter 'f' source) =
        (read source).map fun m => { m with flags := { m.flags with flipped := true } } := by
  refine ⟨fun m flags slots h => m.expand_flipped h flags, fun m flags slots h => ?_,
    fun source letters h h_letter => read_withLetter_flipped h h_letter⟩
  -- in an undirected graph the flag makes no difference, be it on or off
  calc m.expand { flags with flipped := true } slots = m.expand flags slots :=
        m.expand_undirected h true slots
    _ = m.expand { flags with flipped := false } slots := (m.expand_undirected h false slots).symm

/-- A matrix that is not symmetric. -/
private def lopsided : AdjacencyMatrix := ⟨[[1, 2], [0, 1]]⟩

/-- A source that opens with an indented flags line, behind a comment. -/
private def indented : String := "// two\n -s // simple\na, _x\nb\n0 2\n2 0"

/-- The model of the source that is indented. -/
private def indentedModel : Model where
  flags := { simple := true }
  vertices := ["a", "_x", "b"]
  edges := [⟨2, 0⟩, ⟨2, 0⟩]

/-- The edges of the matrix are turned around, its size is refused as it is plainly, and the letter
goes behind the hyphen, wherever in its line that is. -/
theorem flipping_exact_two_by_two :
    lopsided.expand { directed := true, flipped := true } [0, 2] =
      .ok [⟨0, 0⟩, ⟨2, 0⟩, ⟨2, 0⟩, ⟨2, 2⟩] ∧
    lopsided.expand { flipped := true } [0] = .error (.matrix (.wrongSize 1 2 2)) ∧
    withLetter 'f' indented = "// two\n -fs // simple\na, _x\nb\n0 2\n2 0" ∧
    read (withLetter 'f' indented) =
      .ok { indentedModel with flags := { simple := true, flipped := true } } := by
  obtain ⟨h_transposed, h_undirected, h_source⟩ := flipping_exact
  have h_square : lopsided.IsSquare [0, 2].length := ⟨rfl, by decide⟩
  have h_opens : OpensWith ['s'] indented := by
    unfold OpensWith
    decide +kernel
  have h_read : read indented = .ok indentedModel := by decide +kernel
  refine ⟨?_, ?_, by decide +kernel, ?_⟩
  · exact (h_transposed lopsided { directed := true } [0, 2] h_square).trans (by decide)
  · exact (h_undirected lopsided {} [0] rfl).trans (by decide)
  · rw [h_source indented ['s'] h_opens (by decide), h_read]
    rfl

end Notation

end RingDiagram
