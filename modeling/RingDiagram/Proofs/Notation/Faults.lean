import RingDiagram.Proofs.Notation.MatrixSource

/-!
# Faults of lines

Whether a line is at fault depends on the line and on the lines before it, and on nothing that the
reader keeps of them. This file says what the faults are without a draft, and that reading finds the
first of them:

* a line has no form, or it clashes with the earlier lines over a matrix (`Line.clashes`), or it
  mentions a name that no earlier line lists (`Line.unknown?`). `faultAfter?` puts the three in
  order, and `firstFault?` takes them line by line;
* `Draft.Follows` is what a draft keeps of the lines read into it: their flags, the names that they
  list, whether they give edges and whether they hold a row. These are exactly the facts that the
  three tests of the reader look at;
* `Draft.Follows.addLine_failsWith` is the step for faults and `Draft.Follows.addLine` the step for
  the draft; `Draft.Follows.addReadings_failsWith` is the run.

Faults are composed by `FailsWith.bind`. It asks for the fault of the second step when the first has
succeeded, and that does not depend on how it succeeded: under the `auto` flag no name is missing,
and without it no mention declares a name (`Model.missing?_of_mentions`).
-/

namespace RingDiagram

namespace Model

/-! ### Names that are missing -/

variable {m m' : Model} {line : Nat}

/-- The first of some names that no vertex carries; none is missing when mentions declare. -/
def missing? (m : Model) (names : List String) : Option String :=
  if m.flags.auto then none else names.find? (· ∉ m.vertices)

theorem missing?_nil (m : Model) : m.missing? [] = none := by
  simp [missing?]

theorem missing?_append (m : Model) (xs ys : List String) :
    m.missing? (xs ++ ys) = (m.missing? xs).or (m.missing? ys) := by
  -- under the `auto` flag nothing is missing, and otherwise the first name is in the first part or
  -- not
  unfold missing?
  split
  · rfl
  · exact List.find?_append

/-- Mentions that do not declare leave the vertices as they are. -/
theorem foldl_mention_false (names mentioned : List String) :
    mentioned.foldl (mention false) names = names := by
  induction mentioned with
  | nil => rfl
  | cons name mentioned ih => exact ih

/-- The names that are missing stay so while others are mentioned: either mentions declare, and no
name is missing at any time, or the vertices stay as they are. -/
theorem missing?_of_mentions {mentioned : List String} (h_flags : m'.flags = m.flags)
    (h_vertices : m'.vertices = mentioned.foldl (mention m.flags.auto) m.vertices)
    (names : List String) : m'.missing? names = m.missing? names := by
  unfold missing?
  rw [h_flags]
  cases h_auto : m.flags.auto with
  | true => rfl
  | false => rw [h_vertices, h_auto, foldl_mention_false]

/-- The error that goes with a name that is missing. -/
def missingFault? (m : Model) (line : Nat) (names : List String) : Option ParseError :=
  (m.missing? names).map (.unknownVertex · line)

theorem missingFault?_nil (m : Model) (line : Nat) : m.missingFault? line [] = none := by
  rw [missingFault?, missing?_nil, Option.map_none]

theorem missingFault?_append (m : Model) (line : Nat) (xs ys : List String) :
    m.missingFault? line (xs ++ ys) =
      (m.missingFault? line xs).or (m.missingFault? line ys) := by
  unfold missingFault?
  rw [missing?_append, Option.map_or]

/-- One name fails if it is missing. -/
theorem refer_failsWith (m : Model) (line : Nat) (name : String) :
    FailsWith (m.refer line name) (m.missingFault? line [name]) := by
  unfold refer missingFault? missing?
  -- a name that is found is among the vertices, and one that is not found is declared or missing
  cases h_find : m.find? name with
  | some index =>
    have h_mem : name ∈ m.vertices := List.mem_of_getElem? (getElem?_of_find? h_find)
    simpa [h_mem] using FailsWith.ok (m, index)
  | none =>
    have h_mem : name ∉ m.vertices := find?_eq_none_iff.1 h_find
    cases m.flags.auto with
    | true => exact .ok _
    | false => simpa [h_mem] using FailsWith.error (ParseError.unknownVertex name line)

/-- What is missing after a reference was missing before it. -/
theorem missingFault?_of_refer {name : String} {i : Nat} (h : m.refer line name = .ok (m', i))
    (names : List String) : m'.missingFault? line names = m.missingFault? line names := by
  -- the reference adds the name to the vertices if mentions declare, and nothing otherwise
  obtain ⟨h_m', -⟩ := refer_eq_ok_iff.1 h
  have h_flags : m'.flags = m.flags := by rw [h_m']
  have h_vertices : m'.vertices = [name].foldl (mention m.flags.auto) m.vertices := by
    rw [h_m']
    rfl
  have h_missing := missing?_of_mentions h_flags h_vertices names
  unfold missingFault?
  rw [h_missing]

/-- A group fails with the first of its names that is missing. -/
theorem addGroup_failsWith (m : Model) (line : Nat) (group : String × String) :
    FailsWith (m.addGroup line group) (m.missingFault? line [group.1, group.2]) := by
  rw [← List.singleton_append, missingFault?_append]
  -- the target is looked for after the source, and as much is missing then
  refine (m.refer_failsWith line group.1).bind fun found h_source => ?_
  obtain ⟨m₁, source⟩ := found
  rw [← missingFault?_of_refer h_source]
  change FailsWith (m₁.refer line group.2 >>= fun x => .ok (x.1.connect ⟨source, x.2⟩)) _
  rw [bind_ok_eq_map]
  exact (m₁.refer_failsWith line group.2).map _

/-- Groups fail with the first of all their names that is missing. -/
theorem addGroups_failsWith (m : Model) (line : Nat) (groups : List (String × String)) :
    FailsWith (groups.foldlM (Model.addGroup line) m) (m.missingFault? line (groupNames groups)) := by
  induction groups generalizing m with
  | nil =>
    rw [groupNames, List.flatMap_nil, missingFault?_nil]
    exact .ok m
  | cons group groups ih =>
    rw [List.foldlM_cons, groupNames, List.flatMap_cons, missingFault?_append]
    -- the other groups are looked at in the model that the first one leaves
    refine (m.addGroup_failsWith line group).bind fun m₁ h_group => ?_
    obtain ⟨h_grows, h_vertices⟩ := addGroup_grows h_group
    have h_rest := ih m₁
    rw [missingFault?, missing?_of_mentions h_grows.flags h_vertices] at h_rest
    exact h_rest

/-- The rest of a path fails with the first of its names that is missing. -/
theorem continuePath_failsWith (m : Model) (line previous : Nat) (names : List String) :
    FailsWith (m.continuePath line previous names) (m.missingFault? line names) := by
  induction names generalizing m previous with
  | nil =>
    rw [missingFault?_nil]
    exact .ok m
  | cons name names ih =>
    rw [continuePath, ← List.singleton_append, missingFault?_append]
    refine (m.refer_failsWith line name).bind fun found h_name => ?_
    obtain ⟨m₁, index⟩ := found
    rw [← missingFault?_of_refer h_name]
    -- the edge that is added changes no vertex
    exact ih (m₁.connect ⟨previous, index⟩) index

/-- A path fails with the first of its names that is missing. -/
theorem addPath_failsWith (m : Model) (line : Nat) (names : List String) :
    FailsWith (m.addPath line names) (m.missingFault? line names) := by
  cases names with
  | nil =>
    rw [missingFault?_nil]
    exact .ok m
  | cons name names =>
    rw [addPath, ← List.singleton_append, missingFault?_append]
    -- the first name is where the path begins
    refine (m.refer_failsWith line name).bind fun found h_name => ?_
    obtain ⟨m₁, index⟩ := found
    rw [← missingFault?_of_refer h_name]
    exact m₁.continuePath_failsWith line index names

end Model

namespace Notation

/-! ### The fault of a line -/

/-- The names that a line lists as vertices. -/
def Line.listed : Line → List String
  | .vertexList names => names
  | .flags _ | .matrixRow _ | .edgeList _ | .path _ => []

/-- The names that a line mentions as ends of edges, from left to right. -/
def Line.mentions : Line → List String
  | .edgeList groups => Model.groupNames groups
  | .path names => names
  | .flags _ | .matrixRow _ | .vertexList _ => []

/-- The line is a row of a matrix. -/
def Line.isRow : Line → Bool
  | .matrixRow _ => true
  | .flags _ | .edgeList _ | .vertexList _ | .path _ => false

/-- The line cannot stand after the earlier ones: it is a row, the first one, and they give edges,
or it is no row and they hold one. -/
def Line.clashes (earlier : List Line) (line : Line) : Bool :=
  if earlier.any Line.isRow then !line.isRow
  else line.isRow && !(earlier.flatMap Line.pairs).isEmpty

/-- The leftmost name that a line mentions and no earlier line lists, unless mentions declare. -/
def Line.unknown? (earlier : List Line) (line : Line) : Option String :=
  if (openingFlags earlier).auto then none
  else line.mentions.find? (· ∉ earlier.flatMap Line.listed)

/-- The fault of the line of a given number that has a form, after some lines. -/
def Line.fault? (earlier : List Line) (number : Nat) (line : Line) : Option ParseError :=
  if line.clashes earlier then some (.mixedWithMatrix number)
  else (line.unknown? earlier).map (.unknownVertex · number)

/-- The fault of a classified line, after some lines. -/
def faultAfter? (earlier : List Line) : Reading → Option ParseError
  | (number, some line) => line.fault? earlier number
  | (number, none) => some (.unreadableLine number)

/-- The first fault of classified lines, after some lines. -/
def firstFault? (earlier : List Line) : List Reading → Option ParseError
  | [] => none
  | r :: rs => (faultAfter? earlier r).or (firstFault? (earlier ++ r.2.toList) rs)

/-! ### What a draft keeps of its lines -/

/-- The line may stand after the earlier ones: it has content, or it is the first one and sets
flags. -/
def Line.Continues (earlier : List Line) (line : Line) : Prop :=
  (earlier = [] ∧ ∃ modes, line = .flags modes) ∨ line.HasContent

/-- Every line may stand where it does, after the earlier ones. -/
def Continue (earlier : List Line) : List Reading → Prop
  | [] => True
  | r :: rs => (∀ line, r.2 = some line → line.Continues earlier) ∧ HaveContent rs

theorem HaveContent.continue {rs : List Reading} (h : HaveContent rs) (earlier : List Line) :
    Continue earlier rs := by
  cases rs with
  | nil => trivial
  | cons r rs => exact ⟨fun line h_line => Or.inr (h r List.mem_cons_self line h_line), h.tail⟩

/-- The lines of a source may stand where they do. -/
theorem continue_readings (source : String) : Continue [] (readings source) := by
  unfold readings
  cases keptLines source with
  | nil => trivial
  | cons kept rest =>
    refine ⟨fun line h_line => ?_, ?_⟩
    · -- only the first line may set flags, and lines that set none have content
      rcases read?_true_cases kept.text with ⟨modes, h_flags⟩ | h_same
      · exact Or.inl ⟨rfl, modes, Option.some.inj (h_line.symm.trans h_flags)⟩
      · exact Or.inr (hasContent_of_read? (h_same ▸ h_line))
    · exact haveContent_later rest

/-- A line with content does not open a source, so it changes no flags. -/
theorem openingFlags_concat {earlier : List Line} {line : Line} (h : line.HasContent) :
    openingFlags (earlier ++ [line]) = openingFlags earlier := by
  -- the flags are those of the first line, so a line at the end makes no difference but to no lines
  cases earlier with
  | cons first rest => cases first <;> rfl
  | nil =>
    cases line with
    | flags modes => exact absurd h id
    | _ => rfl

/-- Where mentions do not declare, a line declares the names that it lists. -/
theorem Line.declare_false (names : List String) (line : Line) :
    -- only vertex lists list names, and mentions leave the vertices alone
    line.declare false names = names ++ line.listed := by
  cases line with
  | vertexList more => rfl
  | edgeList groups =>
    exact (Model.foldl_mention_false _ _).trans (List.append_nil _).symm
  | path mentioned =>
    exact (Model.foldl_mention_false _ _).trans (List.append_nil _).symm
  | flags modes => exact (List.append_nil _).symm
  | matrixRow cells => exact (List.append_nil _).symm

/-- **What a draft keeps** of the lines that were read into it. Without the `auto` flag its vertices
are the names that the lines list. -/
structure Draft.Follows (d : Draft) (earlier : List Line) : Prop where
  flags : d.model.flags = openingFlags earlier
  vertices : d.model.flags.auto = false → d.model.vertices = earlier.flatMap Line.listed
  edges : d.model.edges = [] ↔ earlier.flatMap Line.pairs = []
  matrix : d.matrix.isEmpty = !earlier.any Line.isRow

namespace Draft

variable {d d' : Draft} {earlier : List Line} {line : Line} {number : Nat}

theorem follows_empty : Draft.Follows {} [] where
  flags := rfl
  vertices _ := rfl
  edges := by simp
  matrix := rfl

/-- What is missing in the model of a draft are the unknown names of the line. -/
theorem Follows.missing?_mentions (h : d.Follows earlier) (line : Line) :
    d.model.missing? line.mentions = line.unknown? earlier := by
  unfold Model.missing? Line.unknown?
  rw [← h.flags]
  -- mentions declare, or the vertices of the draft are the listed names
  cases h_auto : d.model.flags.auto with
  | true => rfl
  | false => rw [h.vertices h_auto]

/-- A change of the model has its own fault, unless it comes after a row. -/
theorem change_failsWith {f : Model → Except ParseError Model} {fault : Option ParseError}
    (h_f : FailsWith (f d.model) fault) :
    FailsWith (d.change number f)
      (if d.matrix.isEmpty then fault else some (.mixedWithMatrix number)) :=
  .ite (fun _ => h_f.map _) fun _ => .error _

/-- The fault of a line that is no row, by the draft that follows the lines before it. -/
theorem Follows.fault?_eq (h : d.Follows earlier) (h_row : line.isRow = false) :
    line.fault? earlier number =
      if d.matrix.isEmpty then d.model.missingFault? number line.mentions
      else some (.mixedWithMatrix number) := by
  unfold Line.fault? Line.clashes Model.missingFault?
  rw [h.missing?_mentions, h.matrix, h_row]
  -- a row among the earlier lines is what the matrix of the draft is asked for
  cases earlier.any Line.isRow <;> rfl

/-- The fault of a row, by the draft that follows the lines before it. -/
theorem Follows.fault?_row (h : d.Follows earlier) (cells : List Nat) :
    (Line.matrixRow cells).fault? earlier number =
      if d.matrix.isEmpty && !d.model.edges.isEmpty then some (.mixedWithMatrix number)
      else none := by
  have h_edges : d.model.edges.isEmpty = (earlier.flatMap Line.pairs).isEmpty := by
    rw [Bool.eq_iff_iff, List.isEmpty_iff, List.isEmpty_iff]
    exact h.edges
  unfold Line.fault? Line.clashes Line.unknown?
  rw [h.matrix, h_edges]
  cases earlier.any Line.isRow <;> simp [Line.isRow, Line.mentions]

/-- **One line** fails with its fault after the lines before it. -/
theorem Follows.addLine_failsWith (h : d.Follows earlier) (number : Nat) (line : Line) :
    FailsWith (d.addLine number line) (line.fault? earlier number) := by
  -- a line changes the model and fails as that change does, and a row is put into the matrix
  cases line with
  | flags modes =>
    rw [h.fault?_eq rfl]
    apply change_failsWith (f := fun m => .ok { m with flags := modes })
    rw [Line.mentions, Model.missingFault?_nil]
    exact .ok _
  | matrixRow cells =>
    rw [h.fault?_row]
    exact .ite (fun _ => .error _) fun _ => .ok _
  | edgeList groups =>
    rw [h.fault?_eq rfl]
    apply change_failsWith (f := fun m => groups.foldlM (Model.addGroup number) m)
    exact d.model.addGroups_failsWith number groups
  | vertexList names =>
    rw [h.fault?_eq rfl]
    apply change_failsWith (f := fun m => .ok { m with vertices := m.vertices ++ names })
    rw [Line.mentions, Model.missingFault?_nil]
    exact .ok _
  | path names =>
    rw [h.fault?_eq rfl]
    apply change_failsWith (f := fun m => m.addPath number names)
    exact d.model.addPath_failsWith number names

/-- The flags of the first line are kept as they are. -/
theorem Follows.addFlags (h : d.Follows []) {modes : Flags}
    (h_step : d.addLine number (.flags modes) = .ok d') : d'.Follows [.flags modes] := by
  rw [addLine] at h_step
  obtain ⟨-, m, h_m, rfl⟩ := change_eq_ok_iff.1 h_step
  cases h_m
  -- no flag was on before, so there was no vertex that a mention had declared
  have h_auto : d.model.flags.auto = false := by
    rw [h.flags]
    rfl
  exact ⟨rfl, fun _ => h.vertices h_auto, h.edges, h.matrix⟩

/-- A row is added to the matrix and leaves the model alone. -/
theorem Follows.addRow (h : d.Follows earlier) {cells : List Nat}
    (h_step : d.addLine number (.matrixRow cells) = .ok d') :
    d'.Follows (earlier ++ [.matrixRow cells]) := by
  obtain ⟨-, rfl⟩ := addRow_eq_ok_iff.1 h_step
  refine ⟨?_, fun h_auto => ?_, ?_, ?_⟩
  · -- a row is neither flags, nor a list of names, nor does it give edges
    have h_content : (Line.matrixRow cells).HasContent := trivial
    rw [openingFlags_concat h_content]
    exact h.flags
  · simpa [Line.listed] using h.vertices h_auto
  · simpa [Line.pairs] using h.edges
  · simp [Line.isRow]

/-- A line with content that is no row changes the model as it says. -/
theorem Follows.addContent (h : d.Follows earlier) (h_content : line.HasContent)
    (h_row : line.isRow = false) (h_step : d.addLine number line = .ok d') :
    d'.Follows (earlier ++ [line]) := by
  have h_line : ∀ cells, line ≠ .matrixRow cells := by
    rintro cells rfl
    cases h_row
  obtain ⟨h_matrix, h_grows, h_vertices⟩ := addLine_grows h_content h_line h_step
  refine ⟨?_, fun h_auto => ?_, ?_, ?_⟩
  · rw [h_grows.flags, h.flags, openingFlags_concat h_content]
  · rw [h_grows.flags] at h_auto
    rw [h_vertices, h_auto, Line.declare_false, h.vertices h_auto]
    simp
  · obtain ⟨added, h_added, h_refers⟩ := h_grows.edges
    -- as many edges are added as the line gives
    have h_nil : added = [] ↔ line.pairs = [] := by
      rw [← List.length_eq_zero_iff, ← List.length_eq_zero_iff, h_refers.length_eq]
    rw [h_added, List.append_eq_nil_iff, h.edges, h_nil]
    simp
  · rw [h_matrix, h.matrix]
    simp [h_row]

/-- **One line** that is taken leaves a draft that follows it as well. -/
theorem Follows.addLine (h : d.Follows earlier) (h_line : line.Continues earlier)
    (h_step : d.addLine number line = .ok d') : d'.Follows (earlier ++ [line]) := by
  -- the first line of a source may set its flags, and all others have content
  rcases h_line with ⟨rfl, modes, rfl⟩ | h_content
  · exact h.addFlags h_step
  · cases h_row : line.isRow with
    | false => exact h.addContent h_content h_row h_step
    | true =>
      cases line with
      | matrixRow cells => exact h.addRow h_step
      | _ => cases h_row

/-- **A run of lines** fails with the first fault of its lines. -/
theorem Follows.addReadings_failsWith {rs : List Reading} (h : d.Follows earlier)
    (h_rs : Continue earlier rs) :
    FailsWith (rs.foldlM addReading d) (firstFault? earlier rs) := by
  induction rs generalizing d earlier with
  | nil => exact .ok d
  | cons r rs ih =>
    obtain ⟨h_r, h_rest⟩ := h_rs
    -- a line without a form is at fault, and any other line leaves a draft that follows it
    obtain ⟨number, _ | line⟩ := r
    · exact .error _
    · rw [List.foldlM_cons, firstFault?]
      refine (h.addLine_failsWith number line).bind fun d₁ h_step => ?_
      exact ih (h.addLine (h_r line rfl) h_step) (h_rest.continue _)

end Draft

end Notation

end RingDiagram
