import RingDiagram.Proofs.Notation.MatrixSource

/-!
# Lines under changed flags

The lines of a source are read under the flags of its opening, and the reader looks at them in one
place: a name that no vertex carries is declared under the `auto` flag and unknown without it. So
what a change of the flags does to a run of lines is what it does to references. If these keep up
with the change, but for errors that are excused (`ReferencesKeepUp`), then so do groups, paths,
lines and runs of lines, in this order: `Draft.addReadings_keepUp`. The flags themselves stay what
they are along a run (`Draft.flags_of_addReadings`).

The other flags are looked at when a draft is closed, and not here.
-/

namespace RingDiagram

/-- The model under changed flags. -/
def Model.mapFlags (f : Flags → Flags) (m : Model) : Model :=
  { m with flags := f m.flags }

/-- Under changed flags a reference comes to the same slot, and to the same model under these flags,
or it fails as it did before; unless it failed with an error that is excused. -/
def ReferencesKeepUp (excused : ParseError → Prop) (f : Flags → Flags) : Prop :=
  ∀ (m : Model) (line : Nat) (name : String),
    KeepsUp excused (fun found => (found.1.mapFlags f, found.2)) (m.refer line name)
      ((m.mapFlags f).refer line name)

section KeepUp

variable {excused : ParseError → Prop} {f : Flags → Flags} (h : ReferencesKeepUp excused f)
include h

/-! ### Groups and paths -/

namespace Model

theorem addGroup_keepsUp (m : Model) (line : Nat) (group : String × String) :
    KeepsUp excused (mapFlags f) (m.addGroup line group) ((m.mapFlags f).addGroup line group) := by
  unfold addGroup
  -- the two ends are looked up one after the other, and to add the edge is no change of flags
  refine (h m line group.1).bind fun source _ => ?_
  exact (h source.1 line group.2).bind fun target _ => .of_eq_map rfl

theorem continuePath_keepsUp (m : Model) (line previous : Nat) (names : List String) :
    KeepsUp excused (mapFlags f) (m.continuePath line previous names)
      ((m.mapFlags f).continuePath line previous names) := by
  induction names generalizing m previous with
  | nil => exact .of_eq_map rfl
  | cons name rest ih =>
    rw [continuePath, continuePath]
    exact (h m line name).bind fun found _ => ih (found.1.connect ⟨previous, found.2⟩) found.2

theorem addPath_keepsUp (m : Model) (line : Nat) (names : List String) :
    KeepsUp excused (mapFlags f) (m.addPath line names) ((m.mapFlags f).addPath line names) := by
  cases names with
  | nil => exact .of_eq_map rfl
  | cons name rest =>
    rw [addPath, addPath]
    exact (h m line name).bind fun found _ => continuePath_keepsUp h found.1 line found.2 rest

end Model

/-! ### Lines -/

namespace Notation

namespace Draft

/-- The draft under changed flags. -/
def mapFlags (f : Flags → Flags) (d : Draft) : Draft :=
  { d with model := d.model.mapFlags f }

omit h in
theorem change_keepsUp (d : Draft) (number : Nat) {g : Model → Except ParseError Model}
    (h_g : ∀ m, KeepsUp excused (Model.mapFlags f) (g m) (g (m.mapFlags f))) :
    KeepsUp excused (mapFlags f) (d.change number g) ((d.mapFlags f).change number g) := by
  have h_matrix : (d.mapFlags f).matrix.isEmpty = d.matrix.isEmpty := rfl
  unfold change
  -- whether there are rows does not hang on the flags
  rw [h_matrix]
  split
  · exact (h_g d.model).map fun m => rfl
  · exact .of_eq_map rfl

omit h in
theorem addRow_mapFlags (d : Draft) (number : Nat) (cells : List Nat) :
    (d.mapFlags f).addRow number cells = (d.addRow number cells).map (mapFlags f) := by
  unfold addRow mapFlags Model.mapFlags
  dsimp only
  split
  · rfl
  · rfl

/-- **One line** with content keeps up with the change. -/
theorem addLine_keepsUp (d : Draft) (number : Nat) {line : Line} (h_line : line.HasContent) :
    KeepsUp excused (mapFlags f) (d.addLine number line) ((d.mapFlags f).addLine number line) := by
  unfold addLine
  -- flags are excluded, rows and names take no reference, and the two other forms are made of
  -- references
  cases line with
  | flags modes => exact absurd h_line id
  | matrixRow cells => exact .of_eq_map (addRow_mapFlags d number cells)
  | edgeList groups =>
    refine change_keepsUp d number fun m => ?_
    exact KeepsUp.foldlM (fun group _ m => m.addGroup_keepsUp h number group) m
  | vertexList names => exact change_keepsUp d number fun m => .of_eq_map rfl
  | path names => exact change_keepsUp d number fun m => m.addPath_keepsUp h number names

/-- **A run of lines** with content keeps up with the change. -/
theorem addReadings_keepUp (d : Draft) {rs : List Reading} (h_rs : HaveContent rs) :
    KeepsUp excused (mapFlags f) (rs.foldlM addReading d)
      (rs.foldlM addReading (d.mapFlags f)) := by
  refine KeepsUp.foldlM (fun r h_r d => ?_) d
  obtain ⟨number, _ | line⟩ := r
  · exact .of_eq_map rfl
  · exact d.addLine_keepsUp h number (h_rs _ h_r line rfl)

end Draft

end Notation

end KeepUp

/-! ### The flags of a run -/

namespace Notation

/-- Lines with content leave the flags as they are. -/
theorem Draft.flags_of_addReadings {d d' : Draft} {rs : List Reading} (h_rs : HaveContent rs)
    (h : rs.foldlM addReading d = .ok d') : d'.model.flags = d.model.flags := by
  induction rs generalizing d with
  | nil =>
    cases h
    rfl
  | cons r rs ih =>
    obtain ⟨d₁, h_step, h_run⟩ := foldlM_cons_eq_ok_iff.1 h
    -- the rest keeps the flags that the first line leaves
    rw [ih h_rs.tail h_run]
    obtain ⟨number, _ | line⟩ := r
    · cases h_step
    · by_cases h_row : ∃ cells, line = .matrixRow cells
      · obtain ⟨cells, rfl⟩ := h_row
        obtain ⟨-, rfl⟩ := addRow_eq_ok_iff.1 h_step
        rfl
      · obtain ⟨-, h_grows, -⟩ := addLine_grows h_rs.head (not_exists.1 h_row) h_step
        exact h_grows.flags

end Notation

end RingDiagram
