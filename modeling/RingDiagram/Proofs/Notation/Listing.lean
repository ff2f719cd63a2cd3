import RingDiagram.Proofs.Notation.Forms
import RingDiagram.Proofs.Notation.Reference

/-!
# Sources that list their edges

A source without a matrix denotes what its lines list. `Line.declare` walks the vertex names over
one line, `Line.pairs` are the edges that a line gives by the names of their ends; neither of them
looks anything up. `vertices_edges_of_read` says that the model of such a source has the vertices
of the walk and the edges of the lines in order, and that every end of an edge is the first slot of
its name among *all* vertices, those declared by later lines included.

The step lemma is `Draft.addLine_grows`, the run lemma `Draft.addReadings_grow`. Growth composes
along a run, so an index that was resolved on an early line is carried to the end of the source by
`Model.Grows.trans` alone.
-/

namespace RingDiagram.Notation

/-! ### What a line lists -/

/-- The names of the vertices after a line. A vertex list declares all its names, repeats
included; an edge list or a path mentions its names. -/
def Line.declare (auto : Bool) (names : List String) : Line → List String
  | .vertexList more => names ++ more
  | .edgeList groups => (Model.groupNames groups).foldl (mention auto) names
  | .path mentioned => mentioned.foldl (mention auto) names
  | .flags _ | .matrixRow _ => names

/-- The edges that a line gives, by the names of their ends: the groups of an edge list, and from
each name of a path to the next. -/
def Line.pairs : Line → List (String × String)
  | .edgeList groups => groups
  | .path names => names.zip names.tail
  | .flags _ | .matrixRow _ | .vertexList _ => []

/-- A line with content that is neither a vertex list nor a row gives an edge. -/
theorem Line.HasContent.pairs_ne_nil {line : Line} (h_content : line.HasContent)
    (h_row : ∀ cells, line ≠ .matrixRow cells) (h_names : ∀ names, line ≠ .vertexList names) :
    line.pairs ≠ [] := by
  -- of the other forms only an edge list and a path are left
  cases line with
  | flags modes => exact absurd h_content id
  | matrixRow cells => exact absurd rfl (h_row cells)
  | edgeList groups => exact h_content
  | vertexList names => exact absurd rfl (h_names names)
  | path names =>
    match names, h_content with
    | a :: b :: rest, _ => exact List.cons_ne_nil _ _

/-- The flags that a source opens with. -/
def openingFlags : List Line → Flags
  | .flags modes :: _ => modes
  | _ => {}

theorem openingFlags_append {modes : Option Flags} {lines : List Line}
    (h : ∀ line ∈ lines, line.HasContent) :
    openingFlags ((modes.map Line.flags).toList ++ lines) = modes.getD {} := by
  cases modes with
  | some modes => rfl
  | none =>
    cases lines with
    | nil => rfl
    | cons line lines =>
      cases line with
      | flags modes => exact absurd (h _ List.mem_cons_self) id
      | _ => rfl

/-! ### One line, and a run of lines -/

namespace Draft

variable {d d' : Draft} {number : Nat}

/-- A change of the model succeeds when no matrix row came before and the model can be changed. -/
theorem change_eq_ok_iff {f : Model → Except ParseError Model} :
    d.change number f = .ok d' ↔
      d.matrix.isEmpty = true ∧ ∃ m, f d.model = .ok m ∧ d' = { d with model := m } := by
  unfold change
  split
  · next h_empty =>
    rw [map_eq_ok_iff]
    simp only [h_empty, true_and, eq_comm]
  · next h_empty => simp [h_empty]

/-- A vertex list is taken unless it comes after a matrix row. -/
theorem addVertexList_eq_ok_iff {names : List String} :
    d.addLine number (.vertexList names) = .ok d' ↔
      d.matrix.isEmpty = true ∧
        d' = { d with model := { d.model with vertices := d.model.vertices ++ names } } := by
  rw [addLine, change_eq_ok_iff]
  refine and_congr_right fun _ => ⟨?_, fun h => ⟨_, rfl, h⟩⟩
  rintro ⟨m, h_m, rfl⟩
  cases h_m
  rfl

/-- A line that is neither flags nor a matrix row leaves the matrix alone, declares its vertices
and adds its edges. -/
theorem addLine_grows {line : Line} (h_content : line.HasContent)
    (h_row : ∀ cells, line ≠ .matrixRow cells) (h : d.addLine number line = .ok d') :
    d'.matrix = d.matrix ∧ d.model.Grows d'.model line.pairs ∧
      d'.model.vertices = line.declare d.model.flags.auto d.model.vertices := by
  -- one case for each form, and the two that are excluded by the hypotheses
  cases line with
  | flags modes => exact absurd h_content id
  | matrixRow cells => exact absurd rfl (h_row cells)
  | edgeList groups =>
    rw [addLine] at h
    obtain ⟨-, m, h_m, rfl⟩ := change_eq_ok_iff.1 h
    exact ⟨rfl, Model.addGroups_grows h_m⟩
  | vertexList names =>
    obtain ⟨-, rfl⟩ := addVertexList_eq_ok_iff.1 h
    exact ⟨rfl, ⟨rfl, List.prefix_append _ _, [], (List.append_nil _).symm, .nil⟩, rfl⟩
  | path names =>
    rw [addLine] at h
    obtain ⟨-, m, h_m, rfl⟩ := change_eq_ok_iff.1 h
    exact ⟨rfl, Model.addPath_grows h_m⟩

/-- **A run of lines** without a matrix row: the vertices are walked over the lines, and the edges
of all lines are added in order. -/
theorem addReadings_grow {rs : List Reading} (h_content : HaveContent rs) (h_rows : ¬ HasRow rs)
    (h : rs.foldlM addReading d = .ok d') :
    ∃ lines : List Line, rs.map Prod.snd = lines.map some ∧ d'.matrix = d.matrix ∧
      d.model.Grows d'.model (lines.flatMap Line.pairs) ∧
      d'.model.vertices = lines.foldl (Line.declare d.model.flags.auto) d.model.vertices := by
  induction rs generalizing d with
  | nil =>
    cases h
    exact ⟨[], rfl, rfl, .refl _, rfl⟩
  | cons r rs ih =>
    obtain ⟨d₁, h_step, h_run⟩ := foldlM_cons_eq_ok_iff.1 h
    obtain ⟨number, _ | line⟩ := r
    · -- a run that succeeds has no line without a form
      cases h_step
    · obtain ⟨h_row, h_rest⟩ := not_hasRow_cons_iff.1 h_rows
      -- the line declares and adds, and the rest does so from the model that it leaves
      obtain ⟨h_matrix₁, h_grows₁, h_vertices₁⟩ := addLine_grows h_content.head h_row h_step
      obtain ⟨lines, h_lines, h_matrix, h_grows, h_vertices⟩ := ih h_content.tail h_rest h_run
      refine ⟨line :: lines, ?_, h_matrix.trans h_matrix₁, ?_, ?_⟩
      · rw [List.map_cons, List.map_cons, h_lines]
      · rw [List.flatMap_cons]
        exact h_grows₁.trans h_grows
      · rw [h_vertices, h_grows₁.flags, h_vertices₁, List.foldl_cons]

end Draft

/-! ### A whole source -/

/-- **The model of a source that lists its edges.** Every kept line has a form; the vertices are
the names of the vertex lists and, under the `auto` flag, the names of edges at their first
mention; the edges by name are the groups and the steps of paths, in order; and every edge ends at
the first slots that carry its names in the final list of vertices. -/
theorem vertices_edges_of_read {source : String} {m : Model} (h_rows : ¬ HasMatrixRow source)
    (h : read source = .ok m) :
    ∃ lines, Says source lines ∧
      m.flags = openingFlags lines ∧
      m.vertices = lines.foldl (Line.declare m.flags.auto) [] ∧
      m.namedEdges = lines.flatMap Line.pairs ∧
      m.namedEdges.length = m.edges.length ∧
      List.Forall₂ m.Refers m.edges m.namedEdges := by
  -- the flags come first, and from then on all lines have content
  obtain ⟨modes, rest, h_forms, h_content, h_read⟩ := exists_opening source
  rw [hasMatrixRow_iff_hasRow h_forms] at h_rows
  rw [h_read] at h
  obtain ⟨d, h_run, h_close⟩ := bind_eq_ok_iff.1 h
  obtain ⟨lines, h_lines, h_matrix, h_grows, h_vertices⟩ :=
    Draft.addReadings_grow h_content h_rows h_run
  -- no row was added, so closing the draft changes nothing
  obtain rfl : d.model = m := by
    rw [Draft.close, h_matrix] at h_close
    exact Except.ok.inj h_close
  -- what was added in the end is the whole of the edges, as the model had none
  have h_flags : d.model.flags = modes.getD {} := h_grows.flags
  obtain ⟨added, h_added, h_refers⟩ := h_grows.edges
  obtain rfl : d.model.edges = added := h_added
  have h_named := Model.namedEdges_of_refers h_refers
  refine ⟨(modes.map Line.flags).toList ++ lines, ?_, ?_, ?_, ?_, ?_, ?_⟩
  · rw [says_opening_iff, h_forms, h_lines]
  · have h_lines_content : ∀ line ∈ lines, line.HasContent := fun line h_line =>
      h_content.of_mem (h_lines ▸ List.mem_map_of_mem h_line)
    rw [h_flags, openingFlags_append h_lines_content]
  · rw [h_vertices, h_flags]
    cases modes <;> rfl
  · rw [h_named]
    cases modes <;> rfl
  · rw [h_named]
    exact h_refers.length_eq.symm
  · rw [h_named]
    exact h_refers

/-- A source whose names come back: a path before the first vertex list, repeats in that list, and
an edge list that declares in the middle of a group. -/
private def repeating : String := "-a\nc-a-c\na, c, b\n(b,d)(a,_x)"

/-- The model of the source whose names come back. -/
private def repeatingModel : Model where
  flags := { auto := true }
  vertices := ["c", "a", "a", "c", "b", "d", "_x"]
  edges := [⟨0, 1⟩, ⟨1, 0⟩, ⟨4, 5⟩, ⟨1, 6⟩]

/-- The later list repeats two names, and every edge still ends at their first slots. -/
theorem vertices_edges_of_read_repeating :
    ¬ HasMatrixRow repeating ∧ read repeating = .ok repeatingModel ∧
      ∃ lines, Says repeating lines ∧
        repeatingModel.flags = openingFlags lines ∧
        repeatingModel.vertices = lines.foldl (Line.declare repeatingModel.flags.auto) [] ∧
        repeatingModel.namedEdges = lines.flatMap Line.pairs ∧
        repeatingModel.namedEdges.length = repeatingModel.edges.length ∧
        List.Forall₂ repeatingModel.Refers repeatingModel.edges repeatingModel.namedEdges := by
  have h_rows : ¬ HasMatrixRow repeating := by
    rintro ⟨cells, h⟩
    have h_forms : forms repeating =
        [some (.flags { auto := true }), some (.path ["c", "a", "c"]),
          some (.vertexList ["a", "c", "b"]), some (.edgeList [("b", "d"), ("a", "_x")])] := by
      decide +kernel
    simp [h_forms] at h
  have h_read : read repeating = .ok repeatingModel := by decide +kernel
  exact ⟨h_rows, h_read, vertices_edges_of_read h_rows h_read⟩

end RingDiagram.Notation
