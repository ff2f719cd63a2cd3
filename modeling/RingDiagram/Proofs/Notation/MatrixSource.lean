import RingDiagram.Proofs.Graph.Expansion
import RingDiagram.Proofs.Notation.Listing

/-!
# Sources with a matrix

A source with a matrix row is accepted in one shape only (`read_matrix_eq_ok_iff`): flags or none,
then vertex lists, then matrix rows up to the end, the rows a matrix that expands over the visible
vertices. Its edges are those of the matrix and no others.

No line of the reader says so. The shape follows from two tests, one on the matrix so far and one
on the edges so far, which cut a run of lines into three phases:

* once there is a row, every further line is a row (`addReadings_rows`);
* once there is an edge and no row yet, no further line is a row (`no_row_after_edge`), and an edge
  list or a path always leaves an edge behind;
* before either, a line is a vertex list, which stays in the phase, or it starts one of the others.

`addReadings_with_row` joins the phases, `addReadings_of_lists_rows` runs the accepted shape, and
what is left is to close the draft.
-/

namespace RingDiagram.Notation

namespace Draft

variable {d d' : Draft} {number : Nat}

/-! ### Matrix rows in a run -/

/-- A row is accepted unless it is the first one and comes after an edge. -/
theorem addRow_eq_ok_iff {cells : List Nat} :
    d.addRow number cells = .ok d' ↔
      (d.matrix.isEmpty = true → d.model.edges = []) ∧
        d' = { d with matrix := d.matrix.push cells } := by
  unfold addRow
  cases h_matrix : d.matrix.isEmpty <;> cases h_edges : d.model.edges <;> simp [eq_comm]

/-- A line other than a row is only taken while there is no row. -/
theorem isEmpty_of_addLine {line : Line} (h_row : ∀ cells, line ≠ .matrixRow cells)
    (h : d.addLine number line = .ok d') : d.matrix.isEmpty = true := by
  cases line with
  | matrixRow cells => exact absurd rfl (h_row cells)
  -- every other line is a change of the model, which asks for an empty matrix
  | _ =>
    rw [addLine] at h
    exact (change_eq_ok_iff.1 h).1

/-- **After a row** a run accepts rows and nothing else. -/
theorem addReadings_rows {rs : List Reading} (h_matrix : d.matrix.isEmpty = false)
    (h : rs.foldlM addReading d = .ok d') :
    ∃ rows : List (List Nat), rs.map Prod.snd = (rows.map Line.matrixRow).map some ∧
      d' = { d with matrix := ⟨d.matrix.rows ++ rows⟩ } := by
  induction rs generalizing d with
  | nil =>
    cases h
    exact ⟨[], rfl, by rw [List.append_nil]⟩
  | cons r rs ih =>
    obtain ⟨d₁, h_step, h_run⟩ := foldlM_cons_eq_ok_iff.1 h
    obtain ⟨number, _ | line⟩ := r
    · cases h_step
    · -- a row makes the matrix longer, so the rest starts from a draft with rows again
      by_cases h_row : ∃ cells, line = .matrixRow cells
      · obtain ⟨cells, rfl⟩ := h_row
        obtain ⟨-, rfl⟩ := addRow_eq_ok_iff.1 h_step
        obtain ⟨rows, h_rows, rfl⟩ := ih (AdjacencyMatrix.isEmpty_push _ _) h_run
        refine ⟨cells :: rows, ?_, ?_⟩
        · rw [List.map_cons, h_rows, List.map_cons, List.map_cons]
        · simp
      · -- anything else would have found an empty matrix
        have h_empty := isEmpty_of_addLine (fun cells h_eq => h_row ⟨cells, h_eq⟩) h_step
        rw [h_matrix] at h_empty
        cases h_empty

/-! ### Edges in a run -/

/-- What gives an edge leaves one behind. -/
theorem edges_ne_nil_of_grows {pairs : List (String × String)} (h : d.model.Grows d'.model pairs)
    (h_edge : d.model.edges ≠ [] ∨ pairs ≠ []) : d'.model.edges ≠ [] := by
  obtain ⟨added, h_added, h_refers⟩ := h.edges
  rw [h_added]
  intro h_nil
  -- without edges there would be neither old ones nor pairs for new ones
  obtain ⟨h_old, rfl⟩ := List.append_eq_nil_iff.1 h_nil
  rcases h_edge with h_edge | h_edge
  · exact h_edge h_old
  · exact h_edge (List.forall₂_nil_left_iff.1 h_refers)

/-- **After an edge** and no row, a run accepts no row. -/
theorem no_row_after_edge {rs : List Reading} (h_matrix : d.matrix.isEmpty = true)
    (h_edges : d.model.edges ≠ []) (h_content : HaveContent rs)
    (h : rs.foldlM addReading d = .ok d') : ¬ HasRow rs := by
  induction rs generalizing d with
  | nil => simp [HasRow]
  | cons r rs ih =>
    obtain ⟨d₁, h_step, h_run⟩ := foldlM_cons_eq_ok_iff.1 h
    obtain ⟨number, _ | line⟩ := r
    · cases h_step
    · -- a first row asks for a model without edges
      have h_row : ∀ cells, line ≠ .matrixRow cells := by
        rintro cells rfl
        exact h_edges ((addRow_eq_ok_iff.1 h_step).1 h_matrix)
      obtain ⟨h_matrix₁, h_grows, -⟩ := addLine_grows h_content.head h_row h_step
      -- the line leaves no row and at least the old edges, which is what the rest starts from
      have h_edges₁ := edges_ne_nil_of_grows h_grows (Or.inl h_edges)
      exact not_hasRow_cons_iff.2 ⟨h_row, ih (h_matrix₁ ▸ h_matrix) h_edges₁ h_content.tail h_run⟩

/-! ### The accepted shape -/

/-- **One line** of a run with a row, from a draft without edges: it is a row, or a vertex list that
comes before a row. -/
theorem row_or_list_of_hasRow {d₁ : Draft} {line : Line} {rs : List Reading}
    (h_matrix : d.matrix.isEmpty = true) (h_content : HaveContent ((number, some line) :: rs))
    (h_row : HasRow ((number, some line) :: rs)) (h_step : d.addLine number line = .ok d₁)
    (h_run : rs.foldlM addReading d₁ = .ok d') :
    (∃ cells, line = .matrixRow cells) ∨ (∃ names, line = .vertexList names) ∧ HasRow rs := by
  rcases hasRow_cons_iff.1 h_row with h_first | h_rest
  · exact Or.inl h_first
  by_cases h_line : ∃ cells, line = .matrixRow cells
  · exact Or.inl h_line
  by_cases h_list : ∃ names, line = .vertexList names
  · exact Or.inr ⟨h_list, h_rest⟩
  -- anything else gives an edge, after which the row cannot come
  obtain ⟨h_matrix₁, h_grows, -⟩ := addLine_grows h_content.head (not_exists.1 h_line) h_step
  have h_pairs := h_content.head.pairs_ne_nil (not_exists.1 h_line) (not_exists.1 h_list)
  have h_edges₁ := edges_ne_nil_of_grows h_grows (Or.inr h_pairs)
  have h_none := no_row_after_edge (h_matrix₁ ▸ h_matrix) h_edges₁ h_content.tail h_run
  exact absurd h_rest h_none

/-- **A run with a row**, from a draft without edges: vertex lists, then rows up to the end. -/
theorem addReadings_with_row {rs : List Reading} (h_matrix : d.matrix.isEmpty = true)
    (h_edges : d.model.edges = []) (h_content : HaveContent rs) (h_row : HasRow rs)
    (h : rs.foldlM addReading d = .ok d') :
    ∃ (names : List (List String)) (rows : List (List Nat)),
      rs.map Prod.snd = (names.map Line.vertexList ++ rows.map Line.matrixRow).map some ∧
        d' = ⟨{ d.model with vertices := d.model.vertices ++ names.flatten },
          ⟨d.matrix.rows ++ rows⟩⟩ := by
  induction rs generalizing d with
  | nil => simp [HasRow] at h_row
  | cons r rs ih =>
    obtain ⟨d₁, h_step, h_run⟩ := foldlM_cons_eq_ok_iff.1 h
    obtain ⟨number, _ | line⟩ := r
    · cases h_step
    · rcases row_or_list_of_hasRow h_matrix h_content h_row h_step h_run with
        ⟨cells, rfl⟩ | ⟨⟨more, rfl⟩, h_rest⟩
      · -- the rows begin here
        obtain ⟨-, rfl⟩ := addRow_eq_ok_iff.1 h_step
        obtain ⟨rows, h_rows, rfl⟩ := addReadings_rows (AdjacencyMatrix.isEmpty_push _ _) h_run
        refine ⟨[], cells :: rows, ?_, ?_⟩
        · rw [List.map_cons, h_rows]
          rfl
        · simp
      · -- a vertex list leaves the draft without edges and without rows
        obtain ⟨-, rfl⟩ := addVertexList_eq_ok_iff.1 h_step
        obtain ⟨names, rows, h_lines, rfl⟩ :=
          ih (d := { d with model := { d.model with vertices := d.model.vertices ++ more } })
            h_matrix h_edges h_content.tail h_rest h_run
        refine ⟨more :: names, rows, ?_, ?_⟩
        · rw [List.map_cons, h_lines]
          rfl
        · simp

/-- Rows are taken by a draft that has rows or no edges. -/
theorem addReadings_of_rows {rs : List Reading} {rows : List (List Nat)}
    (h_first : d.matrix.isEmpty = true → d.model.edges = [])
    (h : rs.map Prod.snd = (rows.map Line.matrixRow).map some) :
    rs.foldlM addReading d = .ok { d with matrix := ⟨d.matrix.rows ++ rows⟩ } := by
  induction rows generalizing d rs with
  | nil =>
    obtain rfl := List.map_eq_nil_iff.1 h
    rw [List.append_nil]
    rfl
  | cons cells rows ih =>
    obtain ⟨⟨number, line⟩, rs, rfl, rfl, h_rest⟩ := List.map_eq_cons_iff.1 h
    have h_step : d.addReading (number, some (.matrixRow cells)) =
        .ok { d with matrix := d.matrix.push cells } := addRow_eq_ok_iff.2 ⟨h_first, rfl⟩
    refine foldlM_cons_eq_ok_iff.2 ⟨_, h_step, ?_⟩
    -- after the first row no more is asked of the edges
    rw [ih (by simp) h_rest]
    simp

/-- A draft without edges takes vertex lists and then rows. -/
theorem addReadings_of_lists_rows {rs : List Reading} {names : List (List String)}
    {rows : List (List Nat)} (h_matrix : d.matrix.isEmpty = true) (h_edges : d.model.edges = [])
    (h : rs.map Prod.snd = (names.map Line.vertexList ++ rows.map Line.matrixRow).map some) :
    rs.foldlM addReading d =
      .ok ⟨{ d.model with vertices := d.model.vertices ++ names.flatten },
        ⟨d.matrix.rows ++ rows⟩⟩ := by
  induction names generalizing d rs with
  | nil =>
    rw [addReadings_of_rows (fun _ => h_edges) h]
    simp
  | cons more names ih =>
    obtain ⟨⟨number, line⟩, rs, rfl, rfl, h_rest⟩ := List.map_eq_cons_iff.1 h
    have h_step : d.addReading (number, some (.vertexList more)) =
        .ok { d with model := { d.model with vertices := d.model.vertices ++ more } } :=
      addVertexList_eq_ok_iff.2 ⟨h_matrix, rfl⟩
    -- the model gets more vertices and still no edges, so the rest may be taken likewise
    refine foldlM_cons_eq_ok_iff.2 ⟨_, h_step, ?_⟩
    rw [ih (d := { d with model := { d.model with vertices := d.model.vertices ++ more } })
      h_matrix h_edges h_rest]
    simp

/-- A draft with rows is closed by adding the edges of its matrix. -/
theorem close_eq_ok_iff {m : Model} (h_matrix : d.matrix.isEmpty = false) :
    d.close = .ok m ↔
      ∃ edges, d.matrix.expand d.model.flags d.model.visibleSlots = .ok edges ∧
        m = { d.model with edges := d.model.edges ++ edges } := by
  unfold close
  simp only [h_matrix]
  rw [if_neg Bool.false_ne_true, bind_eq_ok_iff]
  refine exists_congr fun edges => and_congr_right fun _ => ?_
  exact ⟨fun h => (Except.ok.inj h).symm, fun h => congrArg Except.ok h.symm⟩

end Draft

/-! ### A whole source -/

/-- Lines with content hold no flags line. -/
theorem flags_notMem_of_content {rs : List Reading} (h : HaveContent rs) (modes : Flags) :
    some (Line.flags modes) ∉ rs.map Prod.snd :=
  fun h_mem => h.of_mem h_mem

/-- Vertex lists and rows are no flags. -/
theorem flags_notMem_lists_rows (names : List (List String)) (rows : List (List Nat))
    (modes : Flags) :
    some (Line.flags modes) ∉ (names.map Line.vertexList ++ rows.map Line.matrixRow).map some := by
  simp

/-- Where lists and rows hold a row, there are rows. -/
theorem isEmpty_eq_false_of_row {rs : List Reading} {names : List (List String)}
    {rows : List (List Nat)}
    (h_lines : rs.map Prod.snd = (names.map Line.vertexList ++ rows.map Line.matrixRow).map some)
    (h_row : HasRow rs) : AdjacencyMatrix.isEmpty ⟨rows⟩ = false := by
  -- a row is not among the vertex lists
  obtain ⟨cells, h_mem⟩ := h_row
  rw [h_lines] at h_mem
  cases rows with
  | nil => simp at h_mem
  | cons row rows => rfl

/-- What is read of a source with a row: the lines are in the accepted shape, and all edges are
those of the matrix. -/
theorem expand_of_read {source : String} {m : Model} (h_row : HasMatrixRow source)
    (h : read source = .ok m) :
    ∃ (modes : Option Flags) (names : List (List String)) (rows : List (List Nat)),
      Says source ((modes.map Line.flags).toList ++
        (names.map Line.vertexList ++ rows.map Line.matrixRow)) ∧
      m.flags = modes.getD {} ∧
      m.vertices = names.flatten ∧
      AdjacencyMatrix.expand ⟨rows⟩ m.flags m.visibleSlots = .ok m.edges := by
  obtain ⟨modes, rest, h_forms, h_content, h_read⟩ := exists_opening source
  -- the flags are read first, and the row is behind them
  have h_rest_row := (hasMatrixRow_iff_hasRow h_forms).1 h_row
  rw [h_read] at h
  obtain ⟨d, h_run, h_close⟩ := bind_eq_ok_iff.1 h
  obtain ⟨names, rows, h_lines, rfl⟩ :=
    -- from the draft of the flags, which has neither edges nor rows
    Draft.addReadings_with_row rfl rfl h_content h_rest_row h_run
  have h_rows := isEmpty_eq_false_of_row h_lines h_rest_row
  obtain ⟨edges, h_expand, rfl⟩ := (Draft.close_eq_ok_iff h_rows).1 h_close
  refine ⟨modes, names, rows, ?_, rfl, rfl, h_expand⟩
  rw [says_opening_iff, h_forms, h_lines]

/-- **Sources with a matrix row.** Such a source denotes a model exactly when its kept lines are
flags or none, vertex lists, and rows up to the end, and the rows are a square matrix over the
visible vertices that expands. The model has the vertices of the lists and the edges of the
matrix. -/
theorem read_matrix_eq_ok_iff {source : String} (h_row : HasMatrixRow source) (m : Model) :
    read source = .ok m ↔
      ∃ (modes : Option Flags) (names : List (List String)) (rows : List (List Nat)),
        Says source ((modes.map Line.flags).toList ++
          (names.map Line.vertexList ++ rows.map Line.matrixRow)) ∧
        m.flags = modes.getD {} ∧
        m.vertices = names.flatten ∧
        AdjacencyMatrix.IsSquare ⟨rows⟩ m.visibleCount ∧
        AdjacencyMatrix.expand ⟨rows⟩ m.flags m.visibleSlots = .ok m.edges := by
  constructor
  · intro h
    obtain ⟨modes, names, rows, h_says, h_flags, h_vertices, h_expand⟩ := expand_of_read h_row h
    have h_square := AdjacencyMatrix.square_of_expand h_expand
    rw [Model.length_visibleSlots] at h_square
    exact ⟨modes, names, rows, h_says, h_flags, h_vertices, h_square, h_expand⟩
  · rintro ⟨modes, names, rows, h_says, h_flags, h_vertices, -, h_expand⟩
    obtain ⟨modes', rest, h_forms, h_content, h_read⟩ := exists_opening source
    have h_rest_row := (hasMatrixRow_iff_hasRow h_forms).1 h_row
    rw [says_opening_iff, h_forms] at h_says
    -- the shape is given for some opening, which must be the one of the source
    obtain ⟨rfl, h_lines⟩ := opening_unique h_says (flags_notMem_of_content h_content)
      (flags_notMem_lists_rows names rows)
    have h_rows := isEmpty_eq_false_of_row h_lines h_rest_row
    rw [h_read, Draft.addReadings_of_lists_rows rfl rfl h_lines]
    refine (Draft.close_eq_ok_iff h_rows).2 ?_
    -- a model is its flags, its vertices and its edges
    obtain ⟨flags, vertices, edges⟩ := m
    obtain rfl : flags = modes'.getD {} := h_flags
    obtain rfl : vertices = names.flatten := h_vertices
    exact ⟨edges, h_expand, rfl⟩

/-- A source with a matrix over two visible vertices and an invisible one between them. -/
private def skipping : String := "-d\na, _x\nb\n0 2\n10"

/-- The model of the source with a matrix. -/
private def skippingModel : Model where
  flags := { directed := true }
  vertices := ["a", "_x", "b"]
  edges := [⟨0, 2⟩, ⟨0, 2⟩, ⟨2, 0⟩]

/-- The columns of the matrix are the first and the third vertex. -/
theorem read_matrix_eq_ok_iff_skipping :
    HasMatrixRow skipping ∧ read skipping = .ok skippingModel ∧
      ∃ (modes : Option Flags) (names : List (List String)) (rows : List (List Nat)),
        Says skipping ((modes.map Line.flags).toList ++
          (names.map Line.vertexList ++ rows.map Line.matrixRow)) ∧
        skippingModel.flags = modes.getD {} ∧
        skippingModel.vertices = names.flatten ∧
        AdjacencyMatrix.IsSquare ⟨rows⟩ skippingModel.visibleCount ∧
        AdjacencyMatrix.expand ⟨rows⟩ skippingModel.flags skippingModel.visibleSlots =
          .ok skippingModel.edges := by
  have h_row : HasMatrixRow skipping := by
    refine ⟨[1, 0], ?_⟩
    have h_forms : forms skipping =
        [some (.flags { directed := true }), some (.vertexList ["a", "_x"]),
          some (.vertexList ["b"]), some (.matrixRow [0, 2]), some (.matrixRow [1, 0])] := by
      decide +kernel
    simp [h_forms]
  have h_read : read skipping = .ok skippingModel := by decide +kernel
  exact ⟨h_row, h_read, (read_matrix_eq_ok_iff h_row skippingModel).1 h_read⟩

end RingDiagram.Notation
