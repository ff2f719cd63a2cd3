import RingDiagram.Proofs.Graph.Loading
import RingDiagram.Proofs.Notation.MatrixSource

/-!
# What the reader promises

The reader hands its models to a loader that checks them once more, and either of the two could
find an invariant of the program broken. Neither does (`loads_of_read`):

* every error of the reader is the fault of the input (`blame_of_read`), since the only error that
  is not is a failed lookup of a slot, and `AdjacencyMatrix.expand` has none;
* every edge that is read ends at vertices that there are. `Draft.inRange_of_addReading` is the step
  over one line of any form, `Draft.inRange_of_addReadings` the run over a source; a matrix is added
  at the end, between slots of visible vertices;
* so the loader is left with invisible names, and after a matrix not even with those
  (`endNames_visible_of_read`).
-/

namespace RingDiagram

/-! ### Errors of the reader -/

namespace Model

variable {m : Model} {line : Nat} {e : ParseError}

theorem blame_of_refer {name : String} (h : m.refer line name = .error e) : e.blame = .input := by
  -- a name is found, or declared, or unknown to the source
  unfold refer at h
  split at h
  · cases h
  · split at h
    · cases h
    · cases h
      rfl

theorem blame_of_addGroup {group : String × String} (h : m.addGroup line group = .error e) :
    e.blame = .input := by
  unfold addGroup at h
  -- each error of the pair is that of one of its names
  rcases bind_eq_error h with h_source | ⟨⟨m₁, source⟩, -, h_rest⟩
  · exact blame_of_refer h_source
  · rcases bind_eq_error h_rest with h_target | ⟨⟨m₂, target⟩, -, h_edge⟩
    · exact blame_of_refer h_target
    · cases h_edge

theorem blame_of_continuePath {previous : Nat} {names : List String}
    (h : m.continuePath line previous names = .error e) : e.blame = .input := by
  induction names generalizing m previous with
  | nil => cases h
  | cons name names ih =>
    rw [continuePath] at h
    rcases bind_eq_error h with h_name | ⟨⟨m₁, index⟩, -, h_rest⟩
    · exact blame_of_refer h_name
    · exact ih h_rest

theorem blame_of_addPath {names : List String} (h : m.addPath line names = .error e) :
    e.blame = .input := by
  cases names with
  | nil => cases h
  | cons name names =>
    rw [addPath] at h
    rcases bind_eq_error h with h_name | ⟨⟨m₁, index⟩, -, h_rest⟩
    · exact blame_of_refer h_name
    · exact blame_of_continuePath h_rest

end Model

namespace Notation

namespace Draft

variable {d d' : Draft} {number : Nat} {e : ParseError}

/-- A change of the model that only fails by the input is refused only by the input. -/
theorem blame_of_change {f : Model → Except ParseError Model}
    (h_f : f d.model = .error e → e.blame = .input) (h : d.change number f = .error e) :
    e.blame = .input := by
  -- a change that comes after a row is the fault of its line
  unfold change at h
  split at h
  · exact h_f (map_eq_error_iff.1 h)
  · cases h
    rfl

theorem blame_of_addLine {line : Line} (h : d.addLine number line = .error e) :
    e.blame = .input := by
  -- one case for each form of a line, by what it adds
  rw [addLine.eq_def] at h
  cases line with
  | flags modes =>
    refine blame_of_change (fun h_set => ?_) h
    cases h_set
  | matrixRow cells =>
    change d.addRow number cells = .error e at h
    unfold addRow at h
    split at h
    · cases h
      rfl
    · cases h
  | edgeList groups =>
    refine blame_of_change (fun h_groups => ?_) h
    exact foldlM_eq_error (P := fun e => e.blame = .input)
      (fun _ _ _ _ h_group => Model.blame_of_addGroup h_group) h_groups
  | vertexList names =>
    refine blame_of_change (fun h_set => ?_) h
    cases h_set
  | path names =>
    refine blame_of_change (fun h_path => ?_) h
    exact Model.blame_of_addPath h_path

theorem blame_of_addReading {r : Reading} (h : d.addReading r = .error e) : e.blame = .input := by
  obtain ⟨number, _ | line⟩ := r
  · cases h
    rfl
  · exact blame_of_addLine h

theorem blame_of_close (h : d.close = .error e) : e.blame = .input := by
  unfold close at h
  split at h
  · cases h
  · -- a draft without rows has nothing left to do
    rcases bind_eq_error h with h_expand | ⟨edges, -, h_close⟩
    · obtain ⟨fault, -, rfl⟩ := AdjacencyMatrix.expand_eq_error h_expand
      rfl
    · cases h_close

end Draft

/-- **Errors of the reader** are faults of the input. -/
theorem blame_of_read {source : String} {e : ParseError} (h : read source = .error e) :
    e.blame = .input := by
  rw [read_eq] at h
  rcases bind_eq_error h with h_lines | ⟨d, -, h_close⟩
  · exact foldlM_eq_error (P := fun e => e.blame = .input)
      (fun _ _ _ _ h_line => Draft.blame_of_addReading h_line) h_lines
  · exact Draft.blame_of_close h_close

end Notation

/-! ### Edges in range -/

/-- Growth keeps a model in range: the old edges have more vertices, and the new ones end where
their names were found. -/
theorem Model.InRange.grows {m m' : Model} {pairs : List (String × String)} (h : m.InRange)
    (h_grows : m.Grows m' pairs) : m'.InRange := by
  obtain ⟨added, h_added, h_refers⟩ := h_grows.edges
  -- an edge is an old one or one that the growth has added
  intro e h_e
  rw [h_added, List.mem_append] at h_e
  rcases h_e with h_old | h_new
  · have h_le := h_grows.vertices.length_le
    obtain ⟨h_source, h_target⟩ := h e h_old
    exact ⟨Nat.lt_of_lt_of_le h_source h_le, Nat.lt_of_lt_of_le h_target h_le⟩
  · have h_within : List.Forall₂ (fun e names => e.Within m'.vertices.length ∧ m'.Refers e names)
        added pairs := h_refers.imp fun e names h_r => ⟨h_r.within, h_r⟩
    exact ((List.forall₂_and_left _ _).1 h_within).1 e h_new

namespace Notation

namespace Draft

variable {d d' : Draft}

/-- **One line** of any form keeps the model in range. -/
theorem inRange_of_addReading {r : Reading}
    (h_content : ∀ line, r.2 = some line → line.HasContent) (h : d.model.InRange)
    (h_step : d.addReading r = .ok d') : d'.model.InRange := by
  obtain ⟨number, _ | line⟩ := r
  · cases h_step
  · -- a row adds no edge, and any other line lets the model grow
    by_cases h_row : ∃ cells, line = .matrixRow cells
    · obtain ⟨cells, rfl⟩ := h_row
      -- a row waits in the matrix, and the model stays as it is
      obtain ⟨-, rfl⟩ := addRow_eq_ok_iff.1 h_step
      exact h
    · obtain ⟨-, h_grows, -⟩ := addLine_grows (h_content line rfl)
        (fun cells h_eq => h_row ⟨cells, h_eq⟩) h_step
      exact h.grows h_grows

/-- **A run of lines** keeps the model in range. -/
theorem inRange_of_addReadings {rs : List Reading} (h_content : HaveContent rs)
    (h : d.model.InRange) (h_run : rs.foldlM addReading d = .ok d') : d'.model.InRange := by
  induction rs generalizing d with
  | nil =>
    cases h_run
    exact h
  | cons r rs ih =>
    obtain ⟨d₁, h_step, h_rest⟩ := foldlM_cons_eq_ok_iff.1 h_run
    have h₁ := inRange_of_addReading (h_content r List.mem_cons_self) h h_step
    exact ih h_content.tail h₁ h_rest

/-- The edges of a matrix end at slots of visible vertices, so closing keeps the model in range. -/
theorem inRange_of_close {m : Model} (h : d.model.InRange) (h_close : d.close = .ok m) :
    m.InRange := by
  cases h_matrix : d.matrix.isEmpty with
  | true =>
    rw [close, if_pos h_matrix] at h_close
    cases h_close
    exact h
  | false =>
    obtain ⟨edges, h_expand, rfl⟩ := (close_eq_ok_iff h_matrix).1 h_close
    -- an edge is one of the lines, or one of the matrix
    intro e h_e
    rcases List.mem_append.1 h_e with h_old | h_new
    · exact h e h_old
    · obtain ⟨h_source, h_target⟩ := AdjacencyMatrix.mem_of_expand h_expand h_new
      exact ⟨Model.lt_of_mem_visibleSlots h_source, Model.lt_of_mem_visibleSlots h_target⟩

end Draft

/-- **Models that are read are in range**: every edge ends at vertices of the model. -/
theorem inRange_of_read {source : String} {m : Model} (h : read source = .ok m) : m.InRange := by
  obtain ⟨modes, rest, -, h_content, h_read⟩ := exists_opening source
  rw [h_read] at h
  obtain ⟨d, h_run, h_close⟩ := bind_eq_ok_iff.1 h
  have h_opened : (Draft.opened modes).model.InRange := fun e h_e => nomatch h_e
  exact Draft.inRange_of_close (Draft.inRange_of_addReadings h_content h_opened h_run) h_close

/-! ### Loading what is read -/

/-- After a matrix no edge ends at an invisible name. -/
theorem endNames_visible_of_read {source : String} {m : Model} (h_row : HasMatrixRow source)
    (h : read source = .ok m) : ∀ name ∈ m.endNames, invisibleName name = false := by
  obtain ⟨modes, names, rows, -, -, -, h_expand⟩ := expand_of_read h_row h
  intro name h_name
  obtain ⟨i, h_i, h_slot⟩ := List.mem_filterMap.1 h_name
  obtain ⟨e, h_e, h_end⟩ := List.mem_flatMap.1 h_i
  obtain ⟨h_source, h_target⟩ := AdjacencyMatrix.mem_of_expand h_expand h_e
  -- the slot of an end is in the table that the matrix was expanded over
  have h_visible : i ∈ m.visibleSlots := by
    rcases List.mem_pair.1 h_end with rfl | rfl
    · exact h_source
    · exact h_target
  -- there is one name in a slot, so the name at hand is a visible one
  obtain ⟨name', h_slot', h_name'⟩ := Model.mem_visibleSlots.1 h_visible
  rw [h_slot] at h_slot'
  rw [Option.some.inj h_slot']
  exact h_name'

/-- **Reading and loading.** No invariant of the reader is ever broken, and every edge that is read
ends at vertices that there are. As long as there are slots for the vertices, loading never misses
a vertex: it fails exactly when an edge ends at an invisible name, with the first of them, and
otherwise gives the vertices and edges as they were read. After a matrix it never fails. -/
theorem loads_of_read (source : String) :
    (∀ text, read source ≠ .error (.broken text)) ∧
      ∀ m, read source = .ok m →
        (∀ e ∈ m.edges, e.source < m.vertices.length ∧ e.target < m.vertices.length) ∧
        (m.vertices.length < 0xFFFFFFFF →
          (∀ index count, Network.ofModel? m ≠ .error (.noSuchVertex index count)) ∧
          ((∃ e, Network.ofModel? m = .error e) ↔
            ∃ name ∈ m.endNames, invisibleName name = true) ∧
          (∀ e, Network.ofModel? m = .error e ↔
            ∃ name, m.endNames.find? invisibleName = some name ∧ e = .endsAtInvisible name) ∧
          (∀ net, Network.ofModel? m = .ok net ↔
            m.endNames.find? invisibleName = none ∧ net.flags = m.flags ∧
              net.vertices = m.vertices.map Vertex.ofName ∧ net.edges = m.edges) ∧
          (HasMatrixRow source → ∃ net, Network.ofModel? m = .ok net)) := by
  refine ⟨fun text h => ?_, fun m h => ⟨inRange_of_read h, fun h_vertices => ?_⟩⟩
  · -- a broken invariant is not the fault of the input
    cases blame_of_read h
  have h_range := inRange_of_read h
  -- there is room for all vertices, so every index is a slot
  have h_slots : m.vertices.length ≤ 0x100000000 := by omega
  have h_error : ∀ e, Network.ofModel? m = .error e ↔
      ∃ name, m.endNames.find? invisibleName = some name ∧ e = .endsAtInvisible name :=
    fun e => Network.ofModel?_eq_error_iff h_range h_slots
  refine ⟨fun index count h_missing => ?_, ?_, h_error,
    fun net => Network.ofModel?_eq_ok_iff h_range h_slots, fun h_row => ?_⟩
  · -- the one error that there is speaks of an invisible name
    obtain ⟨name, -, h_name⟩ := (h_error _).1 h_missing
    cases h_name
  · -- a first invisible name is found where there is any
    rw [← List.find?_isSome, Option.isSome_iff_exists]
    constructor
    · rintro ⟨e, h_e⟩
      obtain ⟨name, h_name, -⟩ := (h_error e).1 h_e
      exact ⟨name, h_name⟩
    · rintro ⟨name, h_name⟩
      exact ⟨_, (h_error _).2 ⟨name, h_name, rfl⟩⟩
  · exact (Network.exists_ofModel?_eq_ok_iff h_range h_slots).2
      (endNames_visible_of_read h_row h)

/-- A matrix around an invisible vertex. -/
private def framed : String := "_x\na, b\n02\n20"

/-- The model of the matrix around an invisible vertex. -/
private def framedModel : Model where
  vertices := ["_x", "a", "b"]
  edges := [⟨2, 1⟩, ⟨2, 1⟩]

/-- Edges to two invisible vertices. -/
private def hidden : String := "-a\n(a,_x)(_y,a)"

/-- The model of the edges to invisible vertices. -/
private def hiddenModel : Model where
  flags := { auto := true }
  vertices := ["a", "_x", "_y"]
  edges := [⟨0, 1⟩, ⟨2, 0⟩]

/-- The first model is loaded; the second is not, for the first of its invisible names. -/
theorem loads_of_read_framed_hidden :
    (HasMatrixRow framed ∧ read framed = .ok framedModel ∧
      framedModel.vertices.length < 0xFFFFFFFF ∧ ∃ net, Network.ofModel? framedModel = .ok net) ∧
    (read hidden = .ok hiddenModel ∧ hiddenModel.vertices.length < 0xFFFFFFFF ∧
      Network.ofModel? hiddenModel = .error (.endsAtInvisible "_x")) := by
  -- a model with a matrix row is loaded, whatever is invisible in it
  have h_row : HasMatrixRow framed := by
    refine ⟨[0, 2], ?_⟩
    have h_forms : forms framed =
        [some (.vertexList ["_x"]), some (.vertexList ["a", "b"]), some (.matrixRow [0, 2]),
          some (.matrixRow [2, 0])] := by
      decide +kernel
    simp [h_forms]
  have h_framed : read framed = .ok framedModel := by decide +kernel
  have h_framed_slots : framedModel.vertices.length < 0xFFFFFFFF := by decide
  have h_hidden : read hidden = .ok hiddenModel := by decide +kernel
  have h_hidden_slots : hiddenModel.vertices.length < 0xFFFFFFFF := by decide
  have h_first : hiddenModel.endNames.find? invisibleName = some "_x" := by decide
  obtain ⟨-, h_loads⟩ := loads_of_read framed
  obtain ⟨-, -, -, -, -, h_loaded⟩ := (h_loads _ h_framed).imp_right fun h => h h_framed_slots
  -- without one, the error is told by the first of the invisible names
  obtain ⟨-, h_loads⟩ := loads_of_read hidden
  obtain ⟨-, -, -, h_error, -⟩ := (h_loads _ h_hidden).imp_right fun h => h h_hidden_slots
  exact ⟨⟨h_row, h_framed, h_framed_slots, h_loaded h_row⟩,
    ⟨h_hidden, h_hidden_slots, (h_error _).2 ⟨"_x", h_first, rfl⟩⟩⟩

end Notation

end RingDiagram
