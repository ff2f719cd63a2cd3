import RingDiagram.Graph.AdjacencyMatrix
import RingDiagram.Graph.Model
import RingDiagram.Proofs.Outcome

/-!
# Expanding a matrix

`AdjacencyMatrix.expand` adds the edges of one cell after the other and looks the slots of every
cell up in a table that may be too short. `AdjacencyMatrix.edges?` counts all cells first and
produces edges afterwards. `expand_eq` says that the two agree, so a lookup never fails: the size
of the matrix is checked against the table first, and only positions inside are read. What the
expansion yields is then read off `edges?`:

* its only errors are faults of the matrix (`expand_eq_error`);
* a matrix that is expanded is square over the table (`square_of_expand`);
* every edge ends at slots of the table (`mem_of_expand`), hence at visible vertices when the table
  is that of a model (`mem_visibleSlots`).
-/

namespace RingDiagram

namespace AdjacencyMatrix

variable {m : AdjacencyMatrix} {flags : Flags}

/-! ### The size of a matrix -/

/-- The matrix has `n` rows of width `n`. -/
def IsSquare (m : AdjacencyMatrix) (n : Nat) : Prop :=
  m.rows.length = n ∧ ∀ row ∈ m.rows, row.length = n

theorem sizeFault?_eq_none_iff {n : Nat} : m.sizeFault? n = none ↔ m.IsSquare n := by
  unfold sizeFault? IsSquare
  -- the fault asks whether there is a row of another width, the definition about all rows
  have h_width : (m.wrongWidth? n).isSome = false ↔ ∀ row ∈ m.rows, row.length = n := by
    unfold wrongWidth?
    rw [Option.isSome_eq_false_iff, Option.isNone_iff_eq_none, List.find?_eq_none]
    simp
  rw [← h_width]
  by_cases h_rows : m.rows.length = n
  · cases h : (m.wrongWidth? n).isSome <;> simp [h_rows, h]
  · simp [h_rows]

/-- A position that is read lies inside the matrix. -/
theorem lt_of_mem_positions {directed : Bool} {n : Nat} {p : Nat × Nat}
    (h : p ∈ positions directed n) : p.1 < n ∧ p.2 < n := by
  obtain ⟨h_row, h_column⟩ := mem_positions.1 h
  cases directed with
  | true => exact ⟨h_row, by simpa using h_column⟩
  | false =>
    have h_le : p.2 ≤ p.1 := by simpa using h_column
    omega

/-- A position that is read of an undirected matrix is not above the diagonal. -/
theorem le_of_mem_positions {directed : Bool} {n : Nat} {p : Nat × Nat}
    (h : p ∈ positions directed n) : directed = true ∨ p.2 ≤ p.1 := by
  obtain ⟨-, h_column⟩ := mem_positions.1 h
  cases directed with
  | true => exact Or.inl rfl
  | false => exact Or.inr (by simpa using h_column)

/-! ### The two forms of the expansion agree -/

theorem slotAt_of_lt {slots : Array Nat} {k : Nat} (h : k < slots.size) :
    slotAt slots k = .ok (slots.getD k 0) := by
  unfold slotAt
  simp [h, Array.getD]

/-- One cell inside the table: its fault, the limit, or as many copies of one edge as it counts. -/
theorem addCell_of_lt {slots : Array Nat} {edges : Array Edge} {p : Nat × Nat}
    (h : p.1 < slots.size ∧ p.2 < slots.size) :
    m.addCell flags slots edges p =
      match m.multiplicity flags p.1 p.2 with
      | .error fault => .error (.matrix fault)
      | .ok count =>
        if edgeLimit < edges.size + count then .error (.matrix (.tooManyEdges edgeLimit))
        else .ok (edges ++ Array.replicate count ⟨slots.getD p.1 0, slots.getD p.2 0⟩) := by
  unfold addCell
  rw [slotAt_of_lt h.1, slotAt_of_lt h.2]
  rfl

theorem copies_cons (slots : Array Nat) (p : Nat × Nat) (count : Nat)
    (cells : List ((Nat × Nat) × Nat)) :
    copies slots ((p, count) :: cells) =
      List.replicate count ⟨slots.getD p.1 0, slots.getD p.2 0⟩ ++ copies slots cells :=
  List.flatMap_cons

/-- **The accumulation** of edges over cells inside the table comes to their counts, the edges so
far counted as earlier ones, and then the copies of every cell. -/
theorem foldlM_addCell {slots : Array Nat} {cells : List (Nat × Nat)} (edges : Array Edge)
    (h : ∀ p ∈ cells, p.1 < slots.size ∧ p.2 < slots.size) :
    cells.foldlM (m.addCell flags slots) edges =
      ((m.counts? flags edges.size cells).map fun counts =>
        edges ++ (copies slots (cells.zip counts)).toArray).mapError .matrix := by
  induction cells generalizing edges with
  | nil =>
    -- no cell: there is nothing to count, and nothing is added to the edges so far
    rw [counts?]
    change Except.ok edges = Except.ok (edges ++ #[])
    rw [Array.append_empty]
  | cons p cells ih =>
    rw [List.foldlM_cons, addCell_of_lt (h p List.mem_cons_self), counts?]
    cases m.multiplicity flags p.1 p.2 with
    | error fault => rfl
    | ok count =>
      by_cases h_limit : edgeLimit < edges.size + count
      · -- past the limit neither form looks at the cells after this one
        simp only [h_limit, if_true]
        rfl
      · simp only [h_limit, if_false]
        -- the copies of this cell are earlier edges of all the cells after it
        refine Eq.trans (ih _ fun q hq => h q (List.mem_cons_of_mem p hq)) ?_
        rw [Array.size_append, Array.size_replicate]
        cases m.counts? flags (edges.size + count) cells with
        | error fault => rfl
        | ok counts =>
          simp only [Except.map, Except.mapError, List.zip_cons_cons, copies_cons]
          rw [← List.append_toArray, List.toArray_replicate, Array.append_assoc]

/-- **Both forms of the expansion agree**, so that no lookup of a slot ever fails. -/
theorem expand_eq (m : AdjacencyMatrix) (flags : Flags) (slots : List Nat) :
    m.expand flags slots = (m.edges? flags slots).mapError .matrix := by
  unfold expand edges?
  cases m.sizeFault? slots.length with
  | some fault => rfl
  | none =>
    -- every lookup succeeds, as the table has passed the check of the size against the matrix
    have h_inside : ∀ p ∈ positions flags.directed slots.length,
        p.1 < slots.toArray.size ∧ p.2 < slots.toArray.size := fun p hp => lt_of_mem_positions hp
    simp only [foldlM_addCell #[] h_inside, Array.size_empty]
    cases m.counts? flags 0 (positions flags.directed slots.length) with
    | error fault => rfl
    | ok counts =>
      simp only [Except.map, Except.mapError]
      rw [Array.empty_append]

/-! ### What an expansion yields -/

variable {slots : List Nat} {edges : List Edge}

/-- The only errors of an expansion are faults of the matrix. -/
theorem expand_eq_error {e : ParseError} (h : m.expand flags slots = .error e) :
    ∃ fault, m.edges? flags slots = .error fault ∧ e = .matrix fault := by
  rw [expand_eq] at h
  cases h_edges : m.edges? flags slots with
  | error fault =>
    rw [h_edges] at h
    exact ⟨fault, rfl, (Except.error.inj h).symm⟩
  | ok edges =>
    rw [h_edges] at h
    cases h

theorem edges?_of_expand (h : m.expand flags slots = .ok edges) :
    m.edges? flags slots = .ok edges := by
  rw [expand_eq] at h
  cases h_edges : m.edges? flags slots with
  | error fault =>
    rw [h_edges] at h
    cases h
  | ok edges' =>
    rw [h_edges] at h
    rw [Except.ok.inj h]

/-- A matrix that is expanded is square over the table of slots. -/
theorem square_of_expand (h : m.expand flags slots = .ok edges) : m.IsSquare slots.length := by
  rw [← sizeFault?_eq_none_iff]
  -- the expansion starts with the check of the size, so it has passed if edges come out
  unfold expand at h
  cases h_size : m.sizeFault? slots.length with
  | none => rfl
  | some fault =>
    rw [h_size] at h
    cases h

/-- Every edge of an expansion ends at slots of the table. -/
theorem mem_of_expand (h : m.expand flags slots = .ok edges) {e : Edge} (h_e : e ∈ edges) :
    e.source ∈ slots ∧ e.target ∈ slots := by
  have h_edges := edges?_of_expand h
  have h_size := sizeFault?_eq_none_iff.2 (square_of_expand h)
  unfold edges? at h_edges
  rw [h_size] at h_edges
  obtain ⟨counts, -, rfl⟩ := map_eq_ok_iff.1 h_edges
  -- the edge is a copy of the one of some cell, and that cell lies inside the matrix
  obtain ⟨cell, h_cell, h_copy⟩ := List.mem_flatMap.1 h_e
  obtain ⟨h_row, h_column⟩ := lt_of_mem_positions (List.of_mem_zip h_cell).1
  rw [List.eq_of_mem_replicate h_copy]
  constructor
  · simp [h_row]
  · simp [h_column]

end AdjacencyMatrix

/-- The table of slots of a model lists the slots of its visible vertices. -/
theorem Model.mem_visibleSlots {m : Model} {i : Nat} :
    i ∈ m.visibleSlots ↔ ∃ name, m.vertices[i]? = some name ∧ invisibleName name = false := by
  unfold visibleSlots
  rw [List.mem_map]
  constructor
  · rintro ⟨⟨name, j⟩, h_mem, rfl⟩
    -- an entry is its name and its slot, and the slot of an entry is where its name stands
    obtain ⟨h_slot, h_visible⟩ := List.mem_filter.1 h_mem
    exact ⟨name, List.mk_mem_zipIdx_iff_getElem?.1 h_slot, by simpa using h_visible⟩
  · rintro ⟨name, h_slot, h_visible⟩
    exact ⟨(name, i), List.mem_filter.2 ⟨List.mk_mem_zipIdx_iff_getElem?.2 h_slot,
      by simpa using h_visible⟩, rfl⟩

theorem Model.lt_of_mem_visibleSlots {m : Model} {i : Nat} (h : i ∈ m.visibleSlots) :
    i < m.vertices.length := by
  obtain ⟨name, h_slot, -⟩ := Model.mem_visibleSlots.1 h
  exact (List.getElem?_eq_some_iff.1 h_slot).1

end RingDiagram
