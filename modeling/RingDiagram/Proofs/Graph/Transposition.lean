import RingDiagram.Proofs.Graph.Expansion

/-!
# Transposition

Under the `flipped` flag every cell is read across the diagonal. The scan itself does not change:
the same positions are read in the same order, and faults are reported where they are read. An
expansion sees the matrix only through its size and through what the cells that are read stand for
(`expand_congr`), so flipping is looked at cell by cell.

* The cells of a square matrix that is flipped are those of its `transpose` (`cell_flipped`), and so
  is all that is read of them (`expand_flipped`).
* In an undirected graph a cell stands for edges only if it equals the one across the diagonal, so
  it does not matter which of the two is read (`multiplicity_undirected`). This needs no square.
-/

namespace RingDiagram

namespace AdjacencyMatrix

variable {m m' : AdjacencyMatrix} {flags flags' : Flags} {n i j : Nat}

/-! ### The transposed matrix -/

/-- The matrix with its columns as rows, for a matrix with as many columns as rows. -/
def transpose (m : AdjacencyMatrix) : AdjacencyMatrix :=
  ⟨(List.range m.rows.length).map fun i => (List.range m.rows.length).map fun j => m.entry j i⟩

theorem IsSquare.transpose (h : m.IsSquare n) : m.transpose.IsSquare n := by
  unfold AdjacencyMatrix.transpose
  -- there are as many rows as there were, and as many columns as rows
  rw [h.1]
  refine ⟨by simp, fun row h_row => ?_⟩
  obtain ⟨i, -, rfl⟩ := List.mem_map.1 h_row
  simp

/-- The entries of the transposed matrix are those across the diagonal. -/
theorem IsSquare.entry_transpose (h : m.IsSquare n) (h_i : i < n) (h_j : j < n) :
    m.transpose.entry i j = m.entry j i := by
  conv_lhs => unfold entry AdjacencyMatrix.transpose
  rw [h.1]
  simp [h_i, h_j]

/-! ### What an expansion sees of a matrix -/

/-- Counting sees nothing of the cells but what they stand for. -/
theorem counts?_congr {cells : List (Nat × Nat)}
    (h : ∀ p ∈ cells, m'.multiplicity flags' p.1 p.2 = m.multiplicity flags p.1 p.2) (total : Nat) :
    m'.counts? flags' total cells = m.counts? flags total cells := by
  induction cells generalizing total with
  | nil => rfl
  | cons p cells ih =>
    obtain ⟨h_p, h_cells⟩ := List.forall_mem_cons.1 h
    rw [counts?, counts?, h_p]
    -- a fault ends both counts, and a number of edges raises both totals
    cases m.multiplicity flags p.1 p.2 with
    | error fault => rfl
    | ok count =>
      dsimp only
      rw [ih h_cells]

/-- **What an expansion sees** is the size of a matrix and what the cells that are read stand for.
-/
theorem expand_congr {slots : List Nat} (h_directed : flags'.directed = flags.directed)
    (h_size : m'.sizeFault? slots.length = m.sizeFault? slots.length)
    (h_cells : m.IsSquare slots.length → ∀ i < slots.length, ∀ j < slots.length,
      m'.multiplicity flags' i j = m.multiplicity flags i j) :
    m'.expand flags' slots = m.expand flags slots := by
  rw [expand_eq, expand_eq, edges?, edges?, h_size, h_directed]
  cases h_fault : m.sizeFault? slots.length with
  | some fault => rfl
  | none =>
    -- where cells are read the matrix is square, and all of them are inside it
    have h_square : m.IsSquare slots.length := sizeFault?_eq_none_iff.1 h_fault
    have h_read : ∀ p ∈ positions flags.directed slots.length,
        m'.multiplicity flags' p.1 p.2 = m.multiplicity flags p.1 p.2 := by
      intro p h_p
      obtain ⟨h_i, h_j⟩ := lt_of_mem_positions h_p
      exact h_cells h_square p.1 h_i p.2 h_j
    dsimp only
    rw [counts?_congr h_read 0]

/-! ### Flipped matrices -/

/-- A cell of a flipped matrix is that of the transposed one. -/
theorem IsSquare.cell_flipped (h : m.IsSquare n) (flags : Flags) (h_i : i < n) (h_j : j < n) :
    m.cell { flags with flipped := true } i j =
      m.transpose.cell { flags with flipped := false } i j :=
  calc m.cell { flags with flipped := true } i j = m.entry j i := rfl
    _ = m.transpose.entry i j := (h.entry_transpose h_i h_j).symm
    _ = m.transpose.cell { flags with flipped := false } i j := rfl

/-- **A flipped matrix** is expanded as the transposed one is. -/
theorem expand_flipped {slots : List Nat} (h : m.IsSquare slots.length) (flags : Flags) :
    m.expand { flags with flipped := true } slots =
      m.transpose.expand { flags with flipped := false } slots := by
  refine expand_congr rfl ?_ ?_
  · -- the transposed matrix is of the same size
    rw [sizeFault?_eq_none_iff.2 h, sizeFault?_eq_none_iff.2 h.transpose]
  · intro _ i h_i j h_j
    unfold multiplicity
    rw [h.cell_flipped flags h_i h_j, h.cell_flipped flags h_j h_i]

/-- Of two cells across the diagonal of an undirected matrix either may be read. -/
theorem multiplicity_undirected (h : flags.directed = false) (flipped : Bool) (i j : Nat) :
    m.multiplicity { flags with flipped } i j = m.multiplicity flags i j := by
  -- without direction a cell is compared with the one across, so their order does not matter
  have h_mirror : ∀ flags' : Flags, flags'.directed = false → m.multiplicity flags' i j =
      if i = j then
        if m.entry i i % 2 = 0 then .ok (m.entry i i / 2) else .error (.oddLoop (i + 1))
      else if m.entry i j = m.entry j i then .ok (m.entry i j)
      else .error (.asymmetric (i + 1) (j + 1)) := by
    intro flags' h'
    unfold multiplicity cell
    rw [h', if_neg Bool.false_ne_true]
    by_cases h_ij : i = j
    · subst h_ij
      simp
    · rw [if_neg h_ij, if_neg h_ij]
      cases flags'.flipped with
      | false => rfl
      | true =>
        -- equal cells stand for as many edges, and cells that differ are at fault either way
        by_cases h_equal : m.entry i j = m.entry j i
        · simp [h_equal]
        · simp [h_equal, Ne.symm h_equal]
  rw [h_mirror { flags with flipped } h, h_mirror flags h]

/-- **An undirected matrix** is expanded the same way whether or not it is flipped, be it square or
not. -/
theorem expand_undirected (m : AdjacencyMatrix) (h : flags.directed = false) (flipped : Bool)
    (slots : List Nat) : m.expand { flags with flipped } slots = m.expand flags slots :=
  expand_congr rfl rfl fun _ i _ j _ => multiplicity_undirected h flipped i j

end AdjacencyMatrix

end RingDiagram
