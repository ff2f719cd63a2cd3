import RingDiagram.Proofs.Notation.FirstFault

/-!
# Line numbers

The reader puts the number of a line into the errors about it and makes no other use of it. So the
same lines with other numbers are read to the same end, and an error is the same but for its number:
reading commutes with `ParseError.renumber`. Each function of the reader that is given a number has
a lemma for it, from `Model.refer_renumber` for one name to `Draft.addReading_renumber` for one
line, and `read_renumber` is the whole of it. Closing a draft fails with errors that have no number
(`Draft.close_renumber`).
-/

namespace RingDiagram

/-! ### Errors with other numbers -/

namespace ParseError

/-- The error with another number for its line. -/
def renumber (f : Nat → Nat) : ParseError → ParseError
  | .unknownVertex name line => .unknownVertex name (f line)
  | .unreadableLine line => .unreadableLine (f line)
  | .mixedWithMatrix line => .mixedWithMatrix (f line)
  | .matrix fault => .matrix fault
  | .broken text => .broken text

/-- An error about no line stays as it is. -/
theorem renumber_eq_self {e : ParseError} (h : e.line? = none) (f : Nat → Nat) :
    e.renumber f = e := by
  cases e with
  | matrix fault => rfl
  | broken text => rfl
  | unknownVertex name line => cases h
  | unreadableLine line => cases h
  | mixedWithMatrix line => cases h

end ParseError

variable (f : Nat → Nat)

/-! ### Names, groups and paths -/

namespace Model

theorem refer_renumber (m : Model) (line : Nat) (name : String) :
    m.refer (f line) name = (m.refer line name).mapError (·.renumber f) := by
  unfold refer
  cases m.find? name with
  | some index => rfl
  | none =>
    -- the name is declared or unknown
    by_cases h_auto : m.flags.auto
    · simp only [h_auto]
      rfl
    · simp only [h_auto]
      rfl

theorem addGroup_renumber (m : Model) (line : Nat) (group : String × String) :
    m.addGroup (f line) group = (m.addGroup line group).mapError (·.renumber f) := by
  unfold addGroup
  rw [mapError_bind, refer_renumber]
  -- the first name fails alike, and what follows starts from the same model
  congr 1
  funext found
  obtain ⟨m', source⟩ := found
  dsimp only
  rw [mapError_bind, refer_renumber]
  rfl

theorem continuePath_renumber (m : Model) (line previous : Nat) (names : List String) :
    m.continuePath (f line) previous names =
      (m.continuePath line previous names).mapError (·.renumber f) := by
  induction names generalizing m previous with
  | nil => rfl
  | cons name rest ih =>
    rw [continuePath, continuePath, mapError_bind, refer_renumber]
    congr 1
    funext found
    obtain ⟨m', index⟩ := found
    exact ih _ _

theorem addPath_renumber (m : Model) (line : Nat) (names : List String) :
    m.addPath (f line) names = (m.addPath line names).mapError (·.renumber f) := by
  cases names with
  | nil => rfl
  | cons name rest =>
    rw [addPath, addPath, mapError_bind, refer_renumber]
    congr 1
    funext found
    obtain ⟨m', index⟩ := found
    exact continuePath_renumber f m' line index rest

end Model

namespace Notation

/-! ### Lines -/

namespace Draft

theorem change_renumber (d : Draft) (number : Nat) {g g' : Model → Except ParseError Model}
    (h : ∀ m, g' m = (g m).mapError (·.renumber f)) :
    d.change (f number) g' = (d.change number g).mapError (·.renumber f) := by
  unfold change
  split
  · rw [h, mapError_map]
  · rfl

theorem addRow_renumber (d : Draft) (number : Nat) (cells : List Nat) :
    d.addRow (f number) cells = (d.addRow number cells).mapError (·.renumber f) := by
  unfold addRow
  split
  · rfl
  · rfl

/-- **One line** with another number has the same effect, or the same error with that number. -/
theorem addLine_renumber (d : Draft) (number : Nat) (line : Line) :
    d.addLine (f number) line = (d.addLine number line).mapError (·.renumber f) := by
  unfold addLine
  -- one case for each form of a line, whose number is passed on to the names in it
  cases line with
  | flags modes => exact change_renumber f d number fun m => rfl
  | matrixRow cells => exact addRow_renumber f d number cells
  | edgeList groups =>
    refine change_renumber f d number fun m => ?_
    have h_groups := foldlM_map_mapError (k := id) (Model.addGroup_renumber f · number) groups m
    rw [List.map_id] at h_groups
    exact h_groups
  | vertexList names => exact change_renumber f d number fun m => rfl
  | path names => exact change_renumber f d number fun m => Model.addPath_renumber f m number names

theorem addReading_renumber (d : Draft) (r : Reading) :
    d.addReading (f r.1, r.2) = (d.addReading r).mapError (·.renumber f) := by
  obtain ⟨number, _ | line⟩ := r
  · rfl
  · exact addLine_renumber f d number line

/-- Closing a draft has no number to change. -/
theorem close_renumber (d : Draft) : d.close.mapError (·.renumber f) = d.close := by
  cases h : d.close with
  | ok m => rfl
  | error e => exact congrArg Except.error (ParseError.renumber_eq_self (line?_of_close h) f)

end Draft

/-! ### Whole texts -/

/-- **Reading commutes with renumbering**: a text whose kept lines are those of another one with
other numbers has the same model, or the same error with the other number. -/
theorem read_renumber {source source' : String}
    (h : readings source' = (readings source).map fun r => (f r.1, r.2)) :
    read source' = (read source).mapError (·.renumber f) := by
  -- the lines fail alike, and to close the draft no number is needed
  have h_run := foldlM_map_mapError (Draft.addReading_renumber f) (readings source) {}
  rw [read_eq, read_eq, h, h_run, mapError_bind]
  congr 1
  funext d
  exact (Draft.close_renumber f d).symm

end Notation

end RingDiagram
