import Mathlib.Algebra.BigOperators.Ring.Finset
import Mathlib.Algebra.Ring.Parity
import RingDiagram.Proofs.Graph.Expansion

/-!
# How many edges a matrix stands for

The expansion of a matrix runs over the cells with a running total, and any cell may stop it. This
file gives its outcome without a run: which matrices are expanded, the list of edges, and how often
every pair of vertices is joined (`expand_exact`).

* `edgesAt` is the number of edges that a cell stands for, `Fair` the condition on one cell, and
  `multiplicity_eq_ok_iff` says that the two are what is computed for a cell that is read;
* the running total never goes down, so it stays within the limit when the sum over all cells does
  (`counts?_eq_ok_iff`);
* cells above the diagonal of an undirected graph stand for no edges, so the list may be written
  with all cells, row by row (`rowMajor`). Its length and its counts are one double sum
  (`countP_rowMajor`), of which only the cells of one pair are left when the table of slots is
  strictly increasing.
-/

namespace RingDiagram

namespace AdjacencyMatrix

variable {m : AdjacencyMatrix} {flags : Flags}

/-! ### One cell -/

/-- The number of edges that the cell at `(i, j)` stands for. In a directed graph these are as many
as it says; in an undirected graph, all below the diagonal, half on it and none above it. -/
def edgesAt (m : AdjacencyMatrix) (flags : Flags) (i j : Nat) : Nat :=
  if flags.directed ∨ j < i then m.cell flags i j
  else if j = i then m.cell flags i j / 2
  else 0

/-- The cell at `(i, j)` stands for edges: in an undirected graph it is even on the diagonal, and
equal to the one across the diagonal elsewhere. -/
def Fair (m : AdjacencyMatrix) (flags : Flags) (i j : Nat) : Prop :=
  flags.directed = true ∨
    if j = i then Even (m.cell flags i j) else m.cell flags i j = m.cell flags j i

theorem edgesAt_directed (h : flags.directed = true) (i j : Nat) :
    m.edgesAt flags i j = m.cell flags i j := by
  simp [edgesAt, h]

theorem edgesAt_below {i j : Nat} (h : j < i) : m.edgesAt flags i j = m.cell flags i j := by
  simp [edgesAt, h]

theorem edgesAt_diagonal (h : flags.directed = false) (i : Nat) :
    m.edgesAt flags i i = m.cell flags i i / 2 := by
  simp [edgesAt, h]

theorem edgesAt_above (h : flags.directed = false) {i j : Nat} (h_above : i < j) :
    m.edgesAt flags i j = 0 := by
  have h_below : ¬ j < i := by omega
  have h_diagonal : j ≠ i := by omega
  simp [edgesAt, h, h_below, h_diagonal]

/-- **One cell** that is read stands for edges if it is fair. -/
theorem multiplicity_eq_ok_iff {i j count : Nat} (h_read : flags.directed = true ∨ j ≤ i) :
    m.multiplicity flags i j = .ok count ↔ m.Fair flags i j ∧ count = m.edgesAt flags i j := by
  unfold multiplicity Fair
  cases h_directed : flags.directed with
  | true => simp [edgesAt_directed h_directed, eq_comm]
  | false =>
    have h_le : j ≤ i := by simpa [h_directed] using h_read
    -- the cell below the diagonal is compared with the one across, and the one on it is halved
    rcases h_le.lt_or_eq with h_below | rfl
    · have h_off : i ≠ j := by omega
      rw [edgesAt_below h_below]
      by_cases h_mirror : m.cell flags i j = m.cell flags j i
      · simp [h_off, h_off.symm, h_mirror, eq_comm]
      · simp [h_off, h_off.symm, h_mirror]
    · rw [edgesAt_diagonal h_directed]
      by_cases h_even : m.cell flags j j % 2 = 0
      · simp [Nat.even_iff, h_even, eq_comm]
      · simp [Nat.even_iff, h_even]

/-! ### The running total -/

/-- Cells that are read are counted when all of them are fair and their sum, together with what
came before, is within the limit. -/
theorem counts?_eq_ok_iff {total : Nat} {cells : List (Nat × Nat)} {counts : List Nat}
    (h_read : ∀ p ∈ cells, flags.directed = true ∨ p.2 ≤ p.1) (h_total : total ≤ edgeLimit) :
    m.counts? flags total cells = .ok counts ↔
      (∀ p ∈ cells, m.Fair flags p.1 p.2) ∧ counts = cells.map (fun p => m.edgesAt flags p.1 p.2) ∧
        total + counts.sum ≤ edgeLimit := by
  -- the total grows along the cells, so it stands in for what was counted before the rest
  induction cells generalizing total counts with
  | nil =>
    rw [counts?]
    constructor
    · intro h
      cases h
      simpa using h_total
    · rintro ⟨-, rfl, -⟩
      rfl
  | cons p cells ih =>
    have h_head := h_read p List.mem_cons_self
    have h_tail := fun q hq => h_read q (List.mem_cons_of_mem p hq)
    rw [counts?]
    cases h_cell : m.multiplicity flags p.1 p.2 with
    | error fault =>
      -- an unfair cell stops the count, whatever comes after it
      constructor
      · intro h
        cases h
      · rintro ⟨h_fair, -⟩
        have h_ok := (multiplicity_eq_ok_iff h_head).2 ⟨h_fair p List.mem_cons_self, rfl⟩
        rw [h_cell] at h_ok
        cases h_ok
    | ok count =>
      obtain ⟨h_fair, rfl⟩ := (multiplicity_eq_ok_iff h_head).1 h_cell
      simp only
      split
      · next h_limit =>
        -- the total only grows, so it is over the limit at the end as well
        constructor
        · intro h
          cases h
        · rintro ⟨-, rfl, h_sum⟩
          rw [List.map_cons, List.sum_cons] at h_sum
          omega
      · next h_limit =>
        rw [map_eq_ok_iff]
        constructor
        · rintro ⟨rest, h_rest, rfl⟩
          -- what comes after the cell is counted from the total that it leaves
          obtain ⟨h_fairs, rfl, h_sum⟩ := (ih h_tail (Nat.le_of_not_lt h_limit)).1 h_rest
          refine ⟨List.forall_mem_cons.2 ⟨h_fair, h_fairs⟩, rfl, ?_⟩
          rw [List.sum_cons, ← Nat.add_assoc]
          exact h_sum
        · rintro ⟨h_fairs, rfl, h_sum⟩
          rw [List.map_cons, List.sum_cons, ← Nat.add_assoc] at h_sum
          have h_rest := (ih h_tail (Nat.le_of_not_lt h_limit)).2
            ⟨(List.forall_mem_cons.1 h_fairs).2, rfl, h_sum⟩
          exact ⟨_, h_rest, rfl⟩

/-! ### All cells, row by row -/

/-- The edge between the vertices with the given positions in a table of slots. -/
def edgeBetween (slots : List Nat) (i j : Nat) : Edge :=
  ⟨slots.getD i 0, slots.getD j 0⟩

/-- The edges of all cells, row by row. -/
def rowMajor (m : AdjacencyMatrix) (flags : Flags) (slots : List Nat) : List Edge :=
  (List.range slots.length).flatMap fun i =>
    (List.range slots.length).flatMap fun j =>
      List.replicate (m.edgesAt flags i j) (edgeBetween slots i j)

theorem copies_zip_map (slots : List Nat) (f : Nat × Nat → Nat) (cells : List (Nat × Nat)) :
    copies slots.toArray (cells.zip (cells.map f)) =
      cells.flatMap fun p => List.replicate (f p) (edgeBetween slots p.1 p.2) := by
  induction cells with
  | nil => rfl
  | cons p cells ih =>
    rw [List.map_cons, List.zip_cons_cons, copies_cons, ih, List.flatMap_cons]
    simp [edgeBetween, List.getD_eq_getElem?_getD]

/-- What stands up to the diagonal of an undirected graph is all of the row. -/
theorem flatMap_row (h : flags.directed = false) (slots : List Nat) {i n : Nat} (h_i : i < n) :
    ((List.range (i + 1)).flatMap fun j =>
        List.replicate (m.edgesAt flags i j) (edgeBetween slots i j)) =
      (List.range n).flatMap fun j =>
        List.replicate (m.edgesAt flags i j) (edgeBetween slots i j) := by
  -- the rest of the row stands above the diagonal
  obtain ⟨more, rfl⟩ : ∃ more, n = i + 1 + more := ⟨n - (i + 1), by omega⟩
  have h_above : ∀ j ∈ (List.range more).map (i + 1 + ·),
      List.replicate (m.edgesAt flags i j) (edgeBetween slots i j) = [] := by
    intro j h_j
    obtain ⟨k, -, rfl⟩ := List.mem_map.1 h_j
    rw [edgesAt_above h (by omega), List.replicate_zero]
  rw [List.range_add (n := i + 1), List.flatMap_append, List.flatMap_eq_nil_iff.2 h_above,
    List.append_nil]

/-- The cells that are read give all the edges there are. -/
theorem flatMap_positions (m : AdjacencyMatrix) (flags : Flags) (slots : List Nat) :
    ((positions flags.directed slots.length).flatMap fun p =>
        List.replicate (m.edgesAt flags p.1 p.2) (edgeBetween slots p.1 p.2)) =
      m.rowMajor flags slots := by
  rw [positions, List.flatMap_assoc, rowMajor]
  -- row by row; all of a row is read in a directed graph, and its front in an undirected one
  refine List.flatMap_congr fun i h_i => ?_
  rw [List.flatMap_map]
  cases h : flags.directed with
  | true => rfl
  | false => exact flatMap_row h slots (List.mem_range.1 h_i)

/-- **Counting edges.** The edges with a property are as many as the cells say whose edge has it. -/
theorem countP_rowMajor (m : AdjacencyMatrix) (flags : Flags) (slots : List Nat)
    (P : Edge → Bool) :
    (m.rowMajor flags slots).countP P =
      ∑ i ∈ Finset.range slots.length, ∑ j ∈ Finset.range slots.length,
        if P (edgeBetween slots i j) then m.edgesAt flags i j else 0 := by
  have h_row : ∀ i,
      ((List.range slots.length).flatMap fun j =>
          List.replicate (m.edgesAt flags i j) (edgeBetween slots i j)).countP P =
        ∑ j ∈ Finset.range slots.length,
          if P (edgeBetween slots i j) then m.edgesAt flags i j else 0 := by
    intro i
    rw [List.countP_flatMap]
    simp only [Function.comp_def, List.countP_replicate]
    rfl
  -- the outer sum is over rows, and each row is a sum already
  rw [rowMajor, List.countP_flatMap]
  simp only [Function.comp_def, h_row]
  rfl

/-- The number of all edges is the sum over all cells. -/
theorem length_rowMajor (m : AdjacencyMatrix) (flags : Flags) (slots : List Nat) :
    (m.rowMajor flags slots).length =
      ∑ i ∈ Finset.range slots.length, ∑ j ∈ Finset.range slots.length, m.edgesAt flags i j := by
  have h_all := countP_rowMajor m flags slots fun _ => true
  simpa using h_all

/-! ### The outcome of an expansion -/

variable {slots : List Nat}

/-- Every cell that is read is fair when all cells are fair. -/
theorem fair_positions_iff {n : Nat} :
    (∀ p ∈ positions flags.directed n, m.Fair flags p.1 p.2) ↔
      ∀ i < n, ∀ j < n, m.Fair flags i j := by
  constructor
  · intro h i h_i j h_j
    -- of two cells across the diagonal one is read, whichever was asked about
    rcases Nat.lt_or_ge i j with h_above | h_read
    · cases h_directed : flags.directed with
      | true => exact Or.inl h_directed
      | false =>
        -- a cell above the diagonal is fair because the one across is, which is read
        have h_mirror := h (j, i) (mem_positions.2 ⟨h_j, by simp [h_directed]; omega⟩)
        unfold Fair at h_mirror ⊢
        have h_off : i ≠ j := by omega
        simp only [h_directed, h_off, h_off.symm, if_false] at h_mirror ⊢
        exact h_mirror.imp id Eq.symm
    · refine h (i, j) (mem_positions.2 ⟨h_i, ?_⟩)
      split <;> assumption
  · intro h p h_p
    obtain ⟨h_row, h_column⟩ := lt_of_mem_positions h_p
    exact h p.1 h_row p.2 h_column

/-- **The outcome of an expansion.** A matrix is expanded when it is square over the table, all its
cells are fair and they stand for no more edges than there may be, and then to these edges. -/
theorem expand_eq_ok_iff {edges : List Edge} :
    m.expand flags slots = .ok edges ↔
      m.IsSquare slots.length ∧ (∀ i < slots.length, ∀ j < slots.length, m.Fair flags i j) ∧
        (m.rowMajor flags slots).length ≤ edgeLimit ∧ edges = m.rowMajor flags slots := by
  -- the guard that is checked last never fails, so the edges are those before it
  have h_expand : m.expand flags slots = .ok edges ↔ m.edges? flags slots = .ok edges := by
    refine ⟨edges?_of_expand, fun h => ?_⟩
    rw [expand_eq, h]
    rfl
  rw [h_expand, ← sizeFault?_eq_none_iff]
  unfold edges?
  cases m.sizeFault? slots.length with
  | some fault => simp
  | none =>
    have h_read : ∀ p ∈ positions flags.directed slots.length,
        flags.directed = true ∨ p.2 ≤ p.1 := fun p h_p => le_of_mem_positions h_p
    -- the sum of the counts is the number of the copies
    have h_length : (m.rowMajor flags slots).length =
        ((positions flags.directed slots.length).map fun p => m.edgesAt flags p.1 p.2).sum := by
      rw [← flatMap_positions, List.length_flatMap]
      simp only [List.length_replicate]
    rw [map_eq_ok_iff, h_length]
    simp only [counts?_eq_ok_iff h_read (Nat.zero_le edgeLimit), fair_positions_iff, true_and,
      Nat.zero_add]
    constructor
    · rintro ⟨counts, ⟨h_fair, rfl, h_limit⟩, rfl⟩
      exact ⟨h_fair, h_limit, by rw [copies_zip_map, flatMap_positions]⟩
    · rintro ⟨h_fair, h_limit, rfl⟩
      exact ⟨_, ⟨h_fair, rfl, h_limit⟩, by rw [copies_zip_map, flatMap_positions]⟩

/-! ### Undirected matrices -/

section Undirected

variable (h : flags.directed = false)
include h

/-- All cells of an undirected matrix are fair when it is symmetric with an even diagonal. -/
theorem fair_undirected_iff {n : Nat} :
    (∀ i < n, ∀ j < n, m.Fair flags i j) ↔
      (∀ i < n, ∀ j < n, m.cell flags i j = m.cell flags j i) ∧
        ∀ i < n, Even (m.cell flags i i) := by
  unfold Fair
  simp only [h, Bool.false_eq_true, false_or]
  constructor
  · intro h_fair
    refine ⟨fun i h_i j h_j => ?_, fun i h_i => ?_⟩
    · by_cases h_ij : j = i
      · rw [h_ij]
      · simpa [h_ij] using h_fair i h_i j h_j
    · simpa using h_fair i h_i i h_i
  · rintro ⟨h_symmetric, h_even⟩ i h_i j h_j
    split
    · next h_ij => exact h_ij ▸ h_even i h_i
    · exact h_symmetric i h_i j h_j

/-- A row of an undirected matrix stands for the edges below the diagonal and half of the cell
on it. -/
theorem sum_row_undirected {i n : Nat} (h_i : i < n) :
    ∑ j ∈ Finset.range n, m.edgesAt flags i j =
      ∑ j ∈ Finset.range i, m.cell flags i j + m.cell flags i i / 2 := by
  have h_above : ∀ j ∈ Finset.range n, j ∉ Finset.range (i + 1) → m.edgesAt flags i j = 0 := by
    intro j _ h_j
    rw [Finset.mem_range] at h_j
    exact edgesAt_above h (by omega)
  have h_below : ∑ j ∈ Finset.range i, m.edgesAt flags i j =
      ∑ j ∈ Finset.range i, m.cell flags i j :=
    Finset.sum_congr rfl fun j h_j => edgesAt_below (Finset.mem_range.1 h_j)
  calc ∑ j ∈ Finset.range n, m.edgesAt flags i j
      = ∑ j ∈ Finset.range (i + 1), m.edgesAt flags i j :=
        (Finset.sum_subset (Finset.range_subset_range.2 h_i) h_above).symm
    _ = ∑ j ∈ Finset.range i, m.edgesAt flags i j + m.edgesAt flags i i :=
        Finset.sum_range_succ _ i
    _ = ∑ j ∈ Finset.range i, m.cell flags i j + m.cell flags i i / 2 := by
        rw [h_below, edgesAt_diagonal h]

/-- An undirected matrix with an even diagonal stands for the edges below the diagonal and half of
the diagonal. -/
theorem sum_undirected {n : Nat} (h_even : ∀ i < n, Even (m.cell flags i i)) :
    ∑ i ∈ Finset.range n, ∑ j ∈ Finset.range n, m.edgesAt flags i j =
      ∑ i ∈ Finset.range n, ∑ j ∈ Finset.range i, m.cell flags i j +
        (∑ i ∈ Finset.range n, m.cell flags i i) / 2 := by
  -- halving cell by cell loses nothing, for no cell of the diagonal is odd
  have h_half : ∀ i ∈ Finset.range n, 2 ∣ m.cell flags i i := fun i h_i =>
    (h_even i (Finset.mem_range.1 h_i)).two_dvd
  calc ∑ i ∈ Finset.range n, ∑ j ∈ Finset.range n, m.edgesAt flags i j
      = ∑ i ∈ Finset.range n, (∑ j ∈ Finset.range i, m.cell flags i j + m.cell flags i i / 2) :=
        Finset.sum_congr rfl fun i h_i => sum_row_undirected h (Finset.mem_range.1 h_i)
    _ = ∑ i ∈ Finset.range n, ∑ j ∈ Finset.range i, m.cell flags i j +
          ∑ i ∈ Finset.range n, m.cell flags i i / 2 := Finset.sum_add_distrib
    _ = ∑ i ∈ Finset.range n, ∑ j ∈ Finset.range i, m.cell flags i j +
          (∑ i ∈ Finset.range n, m.cell flags i i) / 2 := by
        rw [Nat.sum_div h_half]

end Undirected

/-! ### The edges of one pair -/

/-- A double sum over the cells with the value of one cell alone. -/
theorem sum_one_cell {n i j : Nat} (h_i : i < n) (h_j : j < n) (f : Nat → Nat → Nat) :
    (∑ i' ∈ Finset.range n, ∑ j' ∈ Finset.range n, if i' = i ∧ j' = j then f i' j' else 0) =
      f i j := by
  simp [ite_and, h_i, h_j]

section OnePair

variable (h_slots : slots.Pairwise (· < ·)) {i j : Nat} (h_i : i < slots.length)
  (h_j : j < slots.length)
include h_slots h_i h_j

/-- Different positions in the table have different edges between them. -/
theorem edgeBetween_eq_iff {i' j' : Nat} (h_i' : i' < slots.length) (h_j' : j' < slots.length) :
    edgeBetween slots i' j' = edgeBetween slots i j ↔ i' = i ∧ j' = j := by
  -- no slot stands in the table twice
  have h_nodup : slots.Nodup := h_slots.imp Nat.ne_of_lt
  simp [edgeBetween, h_i, h_j, h_i', h_j', h_nodup.getElem_inj_iff]

/-- Positions join the same two vertices when they are equal or across the diagonal. -/
theorem pair_edgeBetween_eq_iff {i' j' : Nat} (h_i' : i' < slots.length)
    (h_j' : j' < slots.length) :
    (edgeBetween slots i' j').pair = (edgeBetween slots i j).pair ↔
      i' = i ∧ j' = j ∨ i' = j ∧ j' = i := by
  rw [Edge.pair_eq_iff, edgeBetween_eq_iff h_slots h_i h_j h_i' h_j']
  exact or_congr_right (edgeBetween_eq_iff h_slots h_j h_i h_i' h_j')

/-- An ordered pair of vertices has the edges of its cell. -/
theorem count_rowMajor :
    (m.rowMajor flags slots).count (edgeBetween slots i j) = m.edgesAt flags i j := by
  rw [List.count, countP_rowMajor, ← sum_one_cell h_i h_j (m.edgesAt flags)]
  -- of all cells only the one at `(i, j)` has this edge
  refine Finset.sum_congr rfl fun i' h_i' => Finset.sum_congr rfl fun j' h_j' => ?_
  rw [Finset.mem_range] at h_i' h_j'
  simp only [beq_iff_eq, edgeBetween_eq_iff h_slots h_i h_j h_i' h_j']

/-- An unordered pair of two vertices has the edges of both its cells. -/
theorem countP_pair_rowMajor (h_ij : i ≠ j) :
    (m.rowMajor flags slots).countP (fun e => e.pair = (edgeBetween slots i j).pair) =
      m.edgesAt flags i j + m.edgesAt flags j i := by
  -- the two cells are different ones, so no cell is counted for both
  have h_cell : ∀ i' ∈ Finset.range slots.length, ∀ j' ∈ Finset.range slots.length,
      (if (edgeBetween slots i' j').pair = (edgeBetween slots i j).pair then
          m.edgesAt flags i' j' else 0) =
        (if i' = i ∧ j' = j then m.edgesAt flags i' j' else 0) +
          if i' = j ∧ j' = i then m.edgesAt flags i' j' else 0 := by
    intro i' h_i' j' h_j'
    rw [Finset.mem_range] at h_i' h_j'
    simp only [pair_edgeBetween_eq_iff h_slots h_i h_j h_i' h_j']
    by_cases h_here : i' = i ∧ j' = j
    · have h_across : ¬(i' = j ∧ j' = i) := fun h => h_ij (h_here.1.symm.trans h.1)
      rw [if_pos (Or.inl h_here), if_pos h_here, if_neg h_across, Nat.add_zero]
    · simp only [h_here, false_or, if_false, Nat.zero_add]
  rw [countP_rowMajor]
  simp only [decide_eq_true_eq]
  calc (∑ i' ∈ Finset.range slots.length, ∑ j' ∈ Finset.range slots.length,
        if (edgeBetween slots i' j').pair = (edgeBetween slots i j).pair then
          m.edgesAt flags i' j' else 0)
      = ∑ i' ∈ Finset.range slots.length, ∑ j' ∈ Finset.range slots.length,
          ((if i' = i ∧ j' = j then m.edgesAt flags i' j' else 0) +
            if i' = j ∧ j' = i then m.edgesAt flags i' j' else 0) :=
        Finset.sum_congr rfl fun i' h_i' => Finset.sum_congr rfl fun j' h_j' =>
          h_cell i' h_i' j' h_j'
    _ = (∑ i' ∈ Finset.range slots.length, ∑ j' ∈ Finset.range slots.length,
          if i' = i ∧ j' = j then m.edgesAt flags i' j' else 0) +
        ∑ i' ∈ Finset.range slots.length, ∑ j' ∈ Finset.range slots.length,
          if i' = j ∧ j' = i then m.edgesAt flags i' j' else 0 := by
        simp only [Finset.sum_add_distrib]
    _ = m.edgesAt flags i j + m.edgesAt flags j i := by
        rw [sum_one_cell h_i h_j (m.edgesAt flags), sum_one_cell h_j h_i (m.edgesAt flags)]

end OnePair

/-- The loops of a vertex are the edges of its cell on the diagonal. -/
theorem countP_loop_rowMajor (h_slots : slots.Pairwise (· < ·)) {i : Nat} (h_i : i < slots.length) :
    (m.rowMajor flags slots).countP (fun e => e.pair = (edgeBetween slots i i).pair) =
      m.edgesAt flags i i := by
  rw [countP_rowMajor, ← sum_one_cell h_i h_i (m.edgesAt flags)]
  -- the pair of a loop is across the diagonal from itself, so one cell is left again
  refine Finset.sum_congr rfl fun i' h_i' => Finset.sum_congr rfl fun j' h_j' => ?_
  rw [Finset.mem_range] at h_i' h_j'
  simp only [decide_eq_true_eq, pair_edgeBetween_eq_iff h_slots h_i h_i h_i' h_j', or_self]

/-- The edges of an undirected pair of vertices: the cell of the two, or half of the cell of one. -/
theorem countP_pair_undirected (h : flags.directed = false) (h_slots : slots.Pairwise (· < ·))
    {i j : Nat} (h_i : i < slots.length) (h_j : j < slots.length)
    (h_mirror : m.cell flags i j = m.cell flags j i) :
    (m.rowMajor flags slots).countP (fun e => e.pair = (edgeBetween slots i j).pair) =
      if i = j then m.cell flags i j / 2 else m.cell flags i j := by
  -- of the two cells the one above the diagonal stands for nothing
  rcases Nat.lt_trichotomy i j with h_above | rfl | h_below
  · rw [countP_pair_rowMajor h_slots h_i h_j h_above.ne, if_neg h_above.ne, edgesAt_above h h_above,
      edgesAt_below h_above, Nat.zero_add, h_mirror]
  · rw [countP_loop_rowMajor h_slots h_i, if_pos rfl, edgesAt_diagonal h]
  · rw [countP_pair_rowMajor h_slots h_i h_j h_below.ne', if_neg h_below.ne', edgesAt_below h_below,
      edgesAt_above h h_below, Nat.add_zero]

/-! ### The law of expansion -/

/-- A matrix is expanded over a table if it is square and, read as the graph has it, within the
limit. -/
theorem exists_expand_iff :
    (∃ edges, m.expand flags slots = .ok edges) ↔
      m.IsSquare slots.length ∧
        if flags.directed then
          ∑ i ∈ Finset.range slots.length, ∑ j ∈ Finset.range slots.length, m.cell flags i j ≤
            edgeLimit
        else
          (∀ i < slots.length, ∀ j < slots.length, m.cell flags i j = m.cell flags j i) ∧
          (∀ i < slots.length, Even (m.cell flags i i)) ∧
          ∑ i ∈ Finset.range slots.length, ∑ j ∈ Finset.range i, m.cell flags i j +
            (∑ i ∈ Finset.range slots.length, m.cell flags i i) / 2 ≤ edgeLimit := by
  have h_exists : (∃ edges, m.expand flags slots = .ok edges) ↔
      m.IsSquare slots.length ∧ (∀ i < slots.length, ∀ j < slots.length, m.Fair flags i j) ∧
        (m.rowMajor flags slots).length ≤ edgeLimit := by
    simp only [expand_eq_ok_iff, exists_and_left, exists_eq, and_true]
  rw [h_exists, length_rowMajor]
  refine and_congr_right fun _ => ?_
  -- fairness and the number of edges are said in cells
  cases h : flags.directed with
  | true => simp [Fair, h, edgesAt_directed h]
  | false =>
    rw [fair_undirected_iff h, and_assoc]
    simp only [Bool.false_eq_true, if_false]
    refine and_congr_right fun _ => and_congr_right fun h_even => ?_
    rw [sum_undirected h h_even]

/-- Two vertices in the table have the number of edges that the matrix gives for them. -/
theorem count_of_expand (h_slots : slots.Pairwise (· < ·)) {edges : List Edge}
    (h_edges : m.expand flags slots = .ok edges) {i j a b : Nat} (h_a : slots[i]? = some a)
    (h_b : slots[j]? = some b) :
    if flags.directed then edges.count ⟨a, b⟩ = m.cell flags i j
    else edges.countP (fun e => e.pair = (Edge.mk a b).pair) =
      if i = j then m.cell flags i j / 2 else m.cell flags i j := by
  obtain ⟨-, h_fair, -, rfl⟩ := expand_eq_ok_iff.1 h_edges
  obtain ⟨h_i, rfl⟩ := List.getElem?_eq_some_iff.1 h_a
  obtain ⟨h_j, rfl⟩ := List.getElem?_eq_some_iff.1 h_b
  have h_edge : Edge.mk slots[i] slots[j] = edgeBetween slots i j := by
    simp [edgeBetween, h_i, h_j]
  rw [h_edge]
  cases h : flags.directed with
  | true =>
    -- edges that run the other way have a cell of their own
    rw [if_pos rfl, count_rowMajor h_slots h_i h_j, edgesAt_directed h]
  | false =>
    -- edges in either direction count, and they all stand in one of two equal cells
    have h_mirror := ((fair_undirected_iff h).1 h_fair).1 i h_i j h_j
    rw [if_neg Bool.false_ne_true]
    exact countP_pair_undirected h h_slots h_i h_j h_mirror

/-- **Matrices are expanded exactly.** Over a strictly increasing table of `n` slots, a matrix is
expanded when it is `n` by `n` and, in a directed graph, the sum of its cells is within the limit;
in an undirected one, it is symmetric with an even diagonal, and the cells below the diagonal and
half of the diagonal are within the limit. The edges come row by row, as many for every cell as it
stands for. So they are no more than the limit, and every ordered pair of vertices in the table, or
in an undirected graph every unordered one, has the number of edges that the matrix gives for it. -/
theorem expand_exact (m : AdjacencyMatrix) (flags : Flags) {slots : List Nat}
    (h_slots : slots.Pairwise (· < ·)) :
    ((∃ edges, m.expand flags slots = .ok edges) ↔
      m.IsSquare slots.length ∧
        if flags.directed then
          ∑ i ∈ Finset.range slots.length, ∑ j ∈ Finset.range slots.length, m.cell flags i j ≤
            edgeLimit
        else
          (∀ i < slots.length, ∀ j < slots.length, m.cell flags i j = m.cell flags j i) ∧
          (∀ i < slots.length, Even (m.cell flags i i)) ∧
          ∑ i ∈ Finset.range slots.length, ∑ j ∈ Finset.range i, m.cell flags i j +
            (∑ i ∈ Finset.range slots.length, m.cell flags i i) / 2 ≤ edgeLimit) ∧
    ∀ edges, m.expand flags slots = .ok edges →
      edges = m.rowMajor flags slots ∧
      edges.length ≤ edgeLimit ∧
      (∀ e ∈ edges, e.source ∈ slots ∧ e.target ∈ slots) ∧
      ∀ i j a b, slots[i]? = some a → slots[j]? = some b →
        if flags.directed then edges.count ⟨a, b⟩ = m.cell flags i j
        else edges.countP (fun e => e.pair = (Edge.mk a b).pair) =
          if i = j then m.cell flags i j / 2 else m.cell flags i j := by
  refine ⟨exists_expand_iff, fun edges h_edges => ?_⟩
  -- an expanded matrix has the edges of its cells in order, which the counts are then taken of
  obtain ⟨-, -, h_limit, h_rows⟩ := expand_eq_ok_iff.1 h_edges
  refine ⟨h_rows, h_rows ▸ h_limit, fun e h_e => mem_of_expand h_edges h_e, ?_⟩
  exact fun i j a b h_a h_b => count_of_expand h_slots h_edges h_a h_b

/-- An undirected matrix over three of six slots, with loops at two of them. -/
private def looping : AdjacencyMatrix := ⟨[[2, 1, 0], [1, 0, 3], [0, 3, 4]]⟩

/-- The edges of the matrix with loops. -/
private def loopingEdges : List Edge :=
  [⟨0, 0⟩, ⟨2, 0⟩, ⟨5, 2⟩, ⟨5, 2⟩, ⟨5, 2⟩, ⟨5, 5⟩, ⟨5, 5⟩]

/-- The second and the third slot are joined three times, and the third has two loops. -/
theorem expand_exact_looping :
    [0, 2, 5].Pairwise (· < ·) ∧ looping.expand {} [0, 2, 5] = .ok loopingEdges ∧
      loopingEdges = looping.rowMajor {} [0, 2, 5] ∧
      loopingEdges.countP (fun e => e.pair = (Edge.mk 2 5).pair) = 3 ∧
      loopingEdges.countP (fun e => e.pair = (Edge.mk 5 5).pair) = 4 / 2 := by
  have h_slots : [0, 2, 5].Pairwise (· < ·) := by decide
  have h_expand : looping.expand {} [0, 2, 5] = .ok loopingEdges := by decide
  obtain ⟨h_edges, -, -, h_counts⟩ := (expand_exact looping {} h_slots).2 loopingEdges h_expand
  exact ⟨h_slots, h_expand, h_edges, h_counts 1 2 2 5 rfl rfl, h_counts 2 2 5 5 rfl rfl⟩

end AdjacencyMatrix

end RingDiagram
