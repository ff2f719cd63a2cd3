import RingDiagram.Proofs.Graph.Multiplicity

/-!
# What a scan reports

The expansion of a matrix checks its size, and then scans cells until one is at fault. Here it is
said without a scan which fault that is (`scan_exact`).

* A cell may be at fault in three ways (`FaultAt`), of which the last depends on the cells before
  it: how many edges these stand for. A cell that is not fair is reported as such, whatever the
  total.
* Counting stops at the first cell at fault (`counts?_eq_error_iff`), by induction over the cells
  that are read; these come row by row (`positions_rowMajor`).
* An entry that is missing is read as zero by `entry`. `Strict.expand` is the same scan where a
  missing entry has no value, and it always has one: the size is checked first, and from there on
  every cell that is read is there, as is the one across the diagonal (`Strict.expand_eq`).
-/

namespace RingDiagram

namespace AdjacencyMatrix

variable {m : AdjacencyMatrix} {flags : Flags}

/-! ### The order of a scan -/

/-- The positions of a row come from left to right. -/
theorem pairwise_row (i n : Nat) :
    ((List.range n).map fun j => (i, j)).Pairwise (Prod.Lex (· < ·) (· < ·)) :=
  List.pairwise_map.2 (List.pairwise_lt_range.imp fun h_lt => Prod.Lex.right i h_lt)

/-- **The cells that are read** are read row by row. -/
theorem positions_rowMajor (directed : Bool) (n : Nat) :
    (positions directed n).Pairwise (Prod.Lex (· < ·) (· < ·)) := by
  unfold positions
  rw [List.pairwise_flatMap]
  -- rows come in order, and all positions of one row come before those of the next
  refine ⟨fun i _ => pairwise_row i _, List.pairwise_lt_range.imp fun h_lt p h_p q h_q => ?_⟩
  obtain ⟨j, -, rfl⟩ := List.mem_map.1 h_p
  obtain ⟨k, -, rfl⟩ := List.mem_map.1 h_q
  exact Prod.Lex.left j k h_lt

/-! ### One cell at fault -/

/-- The number of edges that some cells stand for. -/
def edgesIn (m : AdjacencyMatrix) (flags : Flags) (cells : List (Nat × Nat)) : Nat :=
  (cells.map fun p => m.edgesAt flags p.1 p.2).sum

/-- The fault of a cell that is read when `total` edges come before it. -/
inductive FaultAt (m : AdjacencyMatrix) (flags : Flags) (total : Nat) :
    Nat × Nat → MatrixFault → Prop
  | asymmetric {i j : Nat} (h : flags.directed = false) (h_below : j < i)
    (h_mirror : m.cell flags i j ≠ m.cell flags j i) :
    FaultAt m flags total (i, j) (.asymmetric (i + 1) (j + 1))
  | oddLoop {i : Nat} (h : flags.directed = false) (h_odd : Odd (m.cell flags i i)) :
    FaultAt m flags total (i, i) (.oddLoop (i + 1))
  | tooManyEdges {i j : Nat} (h_fair : m.Fair flags i j)
    (h_limit : edgeLimit < total + m.edgesAt flags i j) :
    FaultAt m flags total (i, j) (.tooManyEdges edgeLimit)

/-- A cell with a fault of its own is off the diagonal and differs from the one across it, or it is
on the diagonal and odd. -/
theorem multiplicity_eq_error_iff {i j : Nat} {fault : MatrixFault}
    (h_read : flags.directed = true ∨ j ≤ i) :
    m.multiplicity flags i j = .error fault ↔
      flags.directed = false ∧
        (j < i ∧ m.cell flags i j ≠ m.cell flags j i ∧ fault = .asymmetric (i + 1) (j + 1) ∨
          j = i ∧ Odd (m.cell flags i i) ∧ fault = .oddLoop (i + 1)) := by
  -- the cell across the diagonal is compared only off it, and evenness is asked only on it
  unfold multiplicity
  cases h_directed : flags.directed with
  | true => simp
  | false =>
    have h_le : j ≤ i := by simpa [h_directed] using h_read
    rcases h_le.lt_or_eq with h_below | rfl
    · have h_off : i ≠ j := by omega
      by_cases h_mirror : m.cell flags i j = m.cell flags j i
      · simp [h_off, h_off.symm, h_mirror]
      · simp [h_off, h_off.symm, h_mirror, h_below, eq_comm]
    · by_cases h_even : m.cell flags j j % 2 = 0
      · simp [← Nat.not_even_iff_odd, Nat.even_iff, h_even]
      · simp [← Nat.not_even_iff_odd, Nat.even_iff, h_even, eq_comm]

/-- A cell at fault has a fault of its own, or it is fair and goes over the limit. -/
theorem FaultAt.cases_multiplicity {total : Nat} {p : Nat × Nat} {fault : MatrixFault}
    (h : m.FaultAt flags total p fault) (h_read : flags.directed = true ∨ p.2 ≤ p.1) :
    m.multiplicity flags p.1 p.2 = .error fault ∨
      ∃ count, m.multiplicity flags p.1 p.2 = .ok count ∧ edgeLimit < total + count ∧
        fault = .tooManyEdges edgeLimit := by
  -- each of the three ways to be at fault is one outcome of the count, where the cells are compared
  -- as the fault says
  cases h with
  | asymmetric h_directed h_below h_mirror =>
    have h_own := (multiplicity_eq_error_iff h_read).2
      ⟨h_directed, Or.inl ⟨h_below, h_mirror, rfl⟩⟩
    exact Or.inl h_own
  | oddLoop h_directed h_odd =>
    have h_own := (multiplicity_eq_error_iff h_read).2 ⟨h_directed, Or.inr ⟨rfl, h_odd, rfl⟩⟩
    exact Or.inl h_own
  | tooManyEdges h_fair h_limit =>
    have h_ok := (multiplicity_eq_ok_iff h_read).2 ⟨h_fair, rfl⟩
    exact Or.inr ⟨_, h_ok, h_limit, rfl⟩

/-- A cell with a fault of its own has no other. -/
theorem faultAt_iff_of_error {total : Nat} {p : Nat × Nat} {own fault : MatrixFault}
    (h_read : flags.directed = true ∨ p.2 ≤ p.1)
    (h : m.multiplicity flags p.1 p.2 = .error own) :
    m.FaultAt flags total p fault ↔ fault = own := by
  constructor
  · intro h_fault
    -- the count has one outcome, so the fault is its own; going over the limit takes a count
    rcases h_fault.cases_multiplicity h_read with h_own | ⟨count, h_ok, -⟩
    · exact Except.error.inj (h_own.symm.trans h)
    · cases h_ok.symm.trans h
  · rintro rfl
    obtain ⟨i, j⟩ := p
    dsimp only at h_read h
    obtain ⟨h_directed, ⟨h_below, h_mirror, rfl⟩ | ⟨rfl, h_odd, rfl⟩⟩ :=
      (multiplicity_eq_error_iff h_read).1 h
    · exact .asymmetric h_directed h_below h_mirror
    · exact .oddLoop h_directed h_odd

/-- A cell without a fault of its own is at fault when it goes over the limit. -/
theorem faultAt_iff_of_ok {total count : Nat} {p : Nat × Nat} {fault : MatrixFault}
    (h_read : flags.directed = true ∨ p.2 ≤ p.1)
    (h : m.multiplicity flags p.1 p.2 = .ok count) :
    m.FaultAt flags total p fault ↔
      edgeLimit < total + count ∧ fault = .tooManyEdges edgeLimit := by
  constructor
  · intro h_fault
    -- without a fault of its own, going over the limit is all that is left
    rcases h_fault.cases_multiplicity h_read with h_own | ⟨count', h_ok, h_limit⟩
    · cases h_own.symm.trans h
    · obtain rfl := Except.ok.inj (h_ok.symm.trans h)
      exact h_limit
  · rintro ⟨h_limit, rfl⟩
    obtain ⟨h_fair, rfl⟩ := (multiplicity_eq_ok_iff h_read).1 h
    exact .tooManyEdges h_fair h_limit

/-! ### The first cell at fault -/

/-- The fault is that of the first cell at fault among those that are read, when `total` edges come
before them. -/
def FirstFault (m : AdjacencyMatrix) (flags : Flags) (total : Nat) (cells : List (Nat × Nat))
    (fault : MatrixFault) : Prop :=
  ∃ before p after, cells = before ++ p :: after ∧
    m.FaultAt flags (total + m.edgesIn flags before) p fault ∧
    ∀ earlier q later, before = earlier ++ q :: later →
      ∀ other, ¬ m.FaultAt flags (total + m.edgesIn flags earlier) q other

theorem edgesIn_cons (p : Nat × Nat) (cells : List (Nat × Nat)) :
    m.edgesIn flags (p :: cells) = m.edgesAt flags p.1 p.2 + m.edgesIn flags cells :=
  List.sum_cons

/-- The first cell is at fault, or the first fault is among the cells after it. -/
theorem firstFault_cons_iff {total : Nat} {p : Nat × Nat} {cells : List (Nat × Nat)}
    {fault : MatrixFault} :
    m.FirstFault flags total (p :: cells) fault ↔
      m.FaultAt flags total p fault ∨
        (∀ other, ¬ m.FaultAt flags total p other) ∧
          m.FirstFault flags (total + m.edgesAt flags p.1 p.2) cells fault := by
  constructor
  · -- the split of the cells is at the first one, or further on
    rintro ⟨before, q, after, h_cells, h_fault, h_before⟩
    cases before with
    | nil =>
      obtain ⟨rfl, -⟩ := List.cons.inj h_cells
      exact Or.inl h_fault
    | cons first before =>
      obtain ⟨rfl, h_rest⟩ := List.cons.inj h_cells
      refine Or.inr ⟨h_before [] p before rfl, before, q, after, h_rest, ?_, ?_⟩
      · -- what comes before is counted with the first cell or without it
        rw [edgesIn_cons, ← Nat.add_assoc] at h_fault
        exact h_fault
      · intro earlier r later h_split other
        have h_none := h_before (p :: earlier) r later (congrArg (List.cons p) h_split) other
        rw [edgesIn_cons, ← Nat.add_assoc] at h_none
        exact h_none
  · rintro (h_fault | ⟨h_first, before, q, after, rfl, h_fault, h_before⟩)
    · -- nothing comes before the first cell
      refine ⟨[], p, cells, rfl, h_fault, fun earlier q later h_split => ?_⟩
      exact absurd h_split.symm (by simp)
    · refine ⟨p :: before, q, after, rfl, ?_, fun earlier r later h_split => ?_⟩
      · rw [edgesIn_cons, ← Nat.add_assoc]
        exact h_fault
      · -- a cell before the fault is the first one, or one before the fault of the rest
        cases earlier with
        | nil =>
          obtain ⟨rfl, -⟩ := List.cons.inj h_split
          exact h_first
        | cons first earlier =>
          obtain ⟨rfl, h_rest⟩ := List.cons.inj h_split
          rw [edgesIn_cons, ← Nat.add_assoc]
          exact h_before earlier r later h_rest

/-- **Counting stops** at the first cell at fault, with its fault, and at no other. -/
theorem counts?_eq_error_iff {total : Nat} {cells : List (Nat × Nat)} {fault : MatrixFault}
    (h_read : ∀ p ∈ cells, flags.directed = true ∨ p.2 ≤ p.1) :
    m.counts? flags total cells = .error fault ↔ m.FirstFault flags total cells fault := by
  -- along the cells, with the edges so far
  induction cells generalizing total with
  | nil =>
    rw [counts?]
    constructor
    · intro h
      cases h
    · rintro ⟨before, p, after, h_cells, -⟩
      exact absurd h_cells.symm (by simp)
  | cons p cells ih =>
    obtain ⟨h_p, h_cells⟩ := List.forall_mem_cons.1 h_read
    rw [counts?, firstFault_cons_iff]
    cases h_cell : m.multiplicity flags p.1 p.2 with
    | error own =>
      -- the scan stops here, and the first fault is here, whatever comes after
      simp only [faultAt_iff_of_error h_p h_cell, Except.error.injEq]
      constructor
      · rintro rfl
        exact Or.inl rfl
      · rintro (rfl | ⟨h_none, -⟩)
        · rfl
        · exact absurd rfl (h_none own)
    | ok count =>
      simp only [faultAt_iff_of_ok h_p h_cell]
      -- the count is that of a fair cell, so the total goes up by the edges of the cell
      obtain ⟨-, rfl⟩ := (multiplicity_eq_ok_iff h_p).1 h_cell
      -- the limit is passed at this cell, or the scan goes on with the new total
      by_cases h_limit : edgeLimit < total + m.edgesAt flags p.1 p.2
      · simp [h_limit, eq_comm]
      · rw [if_neg h_limit, map_eq_error_iff, ih h_cells]
        simp [h_limit]

/-! ### The fault of an expansion -/

section Faults

variable {slots : List Nat}

/-- A matrix that is not square over the table is refused for its size, before any cell is read. -/
theorem expand_of_not_square (h : ¬ m.IsSquare slots.length) :
    m.expand flags slots = .error (.matrix (.wrongSize slots.length m.rows.length
      (((m.rows.map List.length).find? (· != slots.length)).getD slots.length))) := by
  have h_size : m.sizeFault? slots.length = some (.wrongSize slots.length m.rows.length
      (((m.rows.map List.length).find? (· != slots.length)).getD slots.length)) := by
    -- a size without a fault would make the matrix square
    rw [← sizeFault?_eq_none_iff] at h
    unfold sizeFault? wrongWidth? at h ⊢
    dsimp only at h ⊢
    split
    · rfl
    · next h_none => exact absurd (if_neg h_none) h
  unfold expand
  rw [h_size]

/-- **A square matrix** is refused for the first of its cells at fault. -/
theorem expand_eq_error_iff (h : m.IsSquare slots.length) {e : ParseError} :
    m.expand flags slots = .error e ↔
      ∃ fault, e = .matrix fault ∧
        m.FirstFault flags 0 (positions flags.directed slots.length) fault := by
  -- no cell is looked at before the size, which is right
  have h_edges : ∀ fault, m.edges? flags slots = .error fault ↔
      m.FirstFault flags 0 (positions flags.directed slots.length) fault := by
    intro fault
    unfold edges?
    rw [sizeFault?_eq_none_iff.2 h]
    dsimp only
    rw [map_eq_error_iff, counts?_eq_error_iff fun p h_p => le_of_mem_positions h_p]
  rw [expand_eq, mapError_eq_error_iff]
  refine exists_congr fun fault => ?_
  rw [h_edges, and_comm, eq_comm]

/-- No cell is at fault for the size of the matrix. -/
theorem FirstFault.ne_wrongSize {total : Nat} {cells : List (Nat × Nat)} {fault : MatrixFault}
    (h : m.FirstFault flags total cells fault) (expected rows width : Nat) :
    fault ≠ .wrongSize expected rows width := by
  obtain ⟨before, p, after, -, h_fault, -⟩ := h
  rintro rfl
  -- each fault of a cell is another one
  cases h_fault

theorem expand_eq_wrongSize_iff {expected rows width : Nat} :
    m.expand flags slots = .error (.matrix (.wrongSize expected rows width)) ↔
      ¬ m.IsSquare slots.length ∧ expected = slots.length ∧ rows = m.rows.length ∧
        width = ((m.rows.map List.length).find? (· != slots.length)).getD slots.length := by
  -- a square matrix has no such fault, any other has exactly this one
  by_cases h_square : m.IsSquare slots.length
  · rw [expand_eq_error_iff h_square]
    constructor
    · rintro ⟨fault, h_error, h_first⟩
      exact absurd (ParseError.matrix.inj h_error).symm (h_first.ne_wrongSize expected rows width)
    · exact fun h => absurd h_square h.1
  · rw [expand_of_not_square h_square]
    simp [h_square, eq_comm]

end Faults

/-! ### Cells that are there

The same scan, where a missing cell has no value and neither has what depends on one. -/

namespace Strict

/-- The entry in row `i` and column `j`, if there is one. -/
def entry (m : AdjacencyMatrix) (i j : Nat) : Option Nat :=
  m.rows[i]?.bind (·[j]?)

/-- The cell at row `i` and column `j` as it is read. -/
def cell (m : AdjacencyMatrix) (flags : Flags) (i j : Nat) : Option Nat :=
  if flags.flipped then entry m j i else entry m i j

/-- The number of edges that the cell at `(i, j)` stands for. The cell across the diagonal is read
only where the two are compared. -/
def multiplicity (m : AdjacencyMatrix) (flags : Flags) (i j : Nat) :
    Option (Except MatrixFault Nat) := do
  let count ← cell m flags i j
  if flags.directed then return .ok count
  else if i = j then
    return if count % 2 = 0 then .ok (count / 2) else .error (.oddLoop (i + 1))
  else
    let mirror ← cell m flags j i
    return if count = mirror then .ok count else .error (.asymmetric (i + 1) (j + 1))

/-- The edges so far and those of one more cell, unless they exceed the limit. -/
def addCell (m : AdjacencyMatrix) (flags : Flags) (slots : Array Nat) (edges : Array Edge)
    (position : Nat × Nat) : Option (Except ParseError (Array Edge)) := do
  match ← multiplicity m flags position.1 position.2 with
  | .error fault => return .error (.matrix fault)
  | .ok count =>
    if edgeLimit < edges.size + count then return .error (.matrix (.tooManyEdges edgeLimit))
    else return do
      let source ← slotAt slots position.1
      let target ← slotAt slots position.2
      return edges ++ Array.replicate count ⟨source, target⟩

/-- The edges so far and those of more cells. Nothing is read after a fault. -/
def addCells (m : AdjacencyMatrix) (flags : Flags) (slots : Array Nat) :
    Array Edge → List (Nat × Nat) → Option (Except ParseError (Array Edge))
  | edges, [] => some (.ok edges)
  | edges, position :: rest => do
    match ← addCell m flags slots edges position with
    | .error e => return .error e
    | .ok edges => addCells m flags slots edges rest

/-- The edges that the matrix stands for. -/
def expand (m : AdjacencyMatrix) (flags : Flags) (slots : List Nat) :
    Option (Except ParseError (List Edge)) :=
  match m.sizeFault? slots.length with
  | some fault => some (.error (.matrix fault))
  | none =>
    (addCells m flags slots.toArray #[] (positions flags.directed slots.length)).map
      (·.map Array.toList)

variable {n i j : Nat}

/-- A square matrix has an entry in every row and every column. -/
theorem entry_eq (h : m.IsSquare n) (h_i : i < n) (h_j : j < n) :
    entry m i j = some (m.entry i j) := by
  obtain ⟨h_rows, h_widths⟩ := h
  -- the row is there by the number of rows, the entry by the width that all rows have
  have h_row : i < m.rows.length := by omega
  have h_column : j < m.rows[i].length := by
    rw [h_widths _ (List.getElem_mem h_row)]
    exact h_j
  unfold entry AdjacencyMatrix.entry
  simp [h_row, h_column]

theorem cell_eq (h : m.IsSquare n) (h_i : i < n) (h_j : j < n) :
    cell m flags i j = some (m.cell flags i j) := by
  -- a flipped matrix is read across the diagonal, where the bounds are the same
  unfold cell AdjacencyMatrix.cell
  split
  · exact entry_eq h h_j h_i
  · exact entry_eq h h_i h_j

theorem multiplicity_eq (h : m.IsSquare n) (h_i : i < n) (h_j : j < n) :
    multiplicity m flags i j = some (m.multiplicity flags i j) := by
  unfold multiplicity AdjacencyMatrix.multiplicity
  -- both cells have a value, so nothing depends on one that is missing
  rw [cell_eq h h_i h_j, cell_eq h h_j h_i]
  dsimp only [Option.bind_eq_bind, Option.bind_some, Option.pure_def]
  split
  · rfl
  · split
    · rfl
    · rfl

/-- **One cell** inside a square matrix is there, and so is the one that it is compared with. -/
theorem addCell_eq (h : m.IsSquare n) {p : Nat × Nat} (h_p : p.1 < n ∧ p.2 < n)
    (slots : Array Nat) (edges : Array Edge) :
    addCell m flags slots edges p = some (m.addCell flags slots edges p) := by
  unfold addCell AdjacencyMatrix.addCell
  rw [multiplicity_eq h h_p.1 h_p.2]
  dsimp only [Option.bind_eq_bind, Option.bind_some, Option.pure_def]
  cases m.multiplicity flags p.1 p.2 with
  | error fault => rfl
  | ok count =>
    dsimp only
    split
    · rfl
    · rfl

/-- **Cells** inside a square matrix are all there. -/
theorem addCells_eq (h : m.IsSquare n) {cells : List (Nat × Nat)}
    (h_cells : ∀ p ∈ cells, p.1 < n ∧ p.2 < n) (slots : Array Nat) (edges : Array Edge) :
    addCells m flags slots edges cells = some (cells.foldlM (m.addCell flags slots) edges) := by
  induction cells generalizing edges with
  | nil => rfl
  | cons p cells ih =>
    obtain ⟨h_p, h_rest⟩ := List.forall_mem_cons.1 h_cells
    rw [addCells, addCell_eq h h_p, List.foldlM_cons]
    dsimp only [Option.bind_eq_bind, Option.bind_some, Option.pure_def]
    -- a fault ends both scans at this cell, and no fault leaves them with the same edges
    cases m.addCell flags slots edges p with
    | error e => rfl
    | ok edges => exact ih h_rest edges

/-- **No cell is missing** in the scan of a matrix, whatever the widths of its rows. -/
theorem expand_eq (m : AdjacencyMatrix) (flags : Flags) (slots : List Nat) :
    expand m flags slots = some (m.expand flags slots) := by
  unfold expand AdjacencyMatrix.expand
  cases h_size : m.sizeFault? slots.length with
  | some fault => rfl
  | none =>
    -- the cells are read only where the matrix has passed the check of its size
    have h_square : m.IsSquare slots.length := sizeFault?_eq_none_iff.1 h_size
    dsimp only
    rw [addCells_eq h_square fun p h_p => lt_of_mem_positions h_p]
    rfl

end Strict

/-! ### The law of the scan -/

/-- **What a scan reports.** A matrix is refused for its size exactly if it is not square over the
table of slots, with the width of the first row that is too wide or too narrow. A square matrix is
refused exactly if some cell that is read is at fault, and then for the first one, row by row:
because it differs from the cell across the diagonal, because it is odd on the diagonal, or, if it
is fair, because the edges go over the limit with it. No invariant is ever broken, and no cell is
looked for where there is none. -/
theorem scan_exact (m : AdjacencyMatrix) (flags : Flags) (slots : List Nat) :
    (∀ expected rows width,
      m.expand flags slots = .error (.matrix (.wrongSize expected rows width)) ↔
        ¬ m.IsSquare slots.length ∧ expected = slots.length ∧ rows = m.rows.length ∧
          width = ((m.rows.map List.length).find? (· != slots.length)).getD slots.length) ∧
    (m.IsSquare slots.length → ∀ e,
      m.expand flags slots = .error e ↔
        ∃ fault, e = .matrix fault ∧
          m.FirstFault flags 0 (positions flags.directed slots.length) fault) ∧
    (positions flags.directed slots.length).Pairwise (Prod.Lex (· < ·) (· < ·)) ∧
    (∀ text, m.expand flags slots ≠ .error (.broken text)) ∧
    Strict.expand m flags slots = some (m.expand flags slots) := by
  refine ⟨fun _ _ _ => expand_eq_wrongSize_iff, fun h e => expand_eq_error_iff h,
    positions_rowMajor _ _, fun text h => ?_, Strict.expand_eq m flags slots⟩
  -- an error of an expansion is the fault of a cell or of the size
  obtain ⟨fault, -, h_fault⟩ := expand_eq_error h
  cases h_fault

/-- An undirected matrix of which four cells are at fault: one goes over the limit, one is odd on
the diagonal, and two differ from those across. -/
private def faulty : AdjacencyMatrix := ⟨[[2, 100000, 5], [100000, 1, 7], [6, 8, 0]]⟩

/-- The first of them is in the second row, and the odd one comes after it. -/
theorem scan_exact_faulty :
    faulty.expand {} [0, 1, 2] = .error (.matrix (.tooManyEdges 100000)) ∧
      faulty.FirstFault {} 0 (positions false 3) (.tooManyEdges 100000) := by
  have h_square : faulty.IsSquare [0, 1, 2].length := ⟨rfl, by decide⟩
  have h_expand : faulty.expand {} [0, 1, 2] = .error (.matrix (.tooManyEdges 100000)) := by
    decide +kernel
  obtain ⟨-, h_errors, -⟩ := scan_exact faulty {} [0, 1, 2]
  obtain ⟨fault, h_fault, h_first⟩ := (h_errors h_square _).1 h_expand
  cases h_fault
  exact ⟨h_expand, h_first⟩

end AdjacencyMatrix

end RingDiagram
