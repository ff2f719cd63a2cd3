import RingDiagram.Proofs.Notation.RoundTrip
import RingDiagram.Proofs.Notation.Contents

/-!
# Paths as groups

A path is short for the edge list of its steps: the groups from each of its names to the next. The
two are read by different loops. A path looks each of its names up once and goes on from the slot
that it found, while groups look every inner name up a second time, as the target of one group and
the source of the next. Nothing happens at the second time, since the name is known by then
(`Model.addGroup_of_refer`), so the two loops add the same edges, declare the same names and stop at
the same unknown name: `Model.addPath_eq_addGroups`.

`withLine` puts another text in the place of one line of a source. Where the line is kept and the
other text says something, the form of this line changes and nothing else does
(`readings_withLine`), and so the law of two lines is one of whole sources: `read_unchained`.
-/

namespace RingDiagram

/-! ### Paths over a model -/

namespace Model

variable {m m' : Model} {line i : Nat} {name : String}

/-- The source of a group may be referred to beforehand. -/
theorem addGroup_of_refer (h : m.refer line name = .ok (m', i)) (next : String) :
    m.addGroup line (name, next) = m'.addGroup line (name, next) := by
  -- the name has its slot already when it is referred to again
  have h_again : m'.refer line name = .ok (m', i) := refer_of_find? (refer_eq_ok_iff.1 h).2
  unfold addGroup
  rw [h, h_again]

/-- The rest of a path adds the groups from each name to the next, the first one from the name of
the vertex that it goes on from. -/
theorem continuePath_eq_addGroups {names : List String} (h : m.find? name = some i) :
    m.continuePath line i names = ((name :: names).zip names).foldlM (Model.addGroup line) m := by
  induction names generalizing m name i with
  | nil => rfl
  | cons next names ih =>
    -- the source has its slot, so of the two references of the group only the second one is left
    have h_group : m.addGroup line (name, next) =
        (m.refer line next).map fun found => found.1.connect ⟨i, found.2⟩ := by
      unfold addGroup
      rw [refer_of_find? h]
      exact bind_ok_eq_map _ _
    rw [continuePath, List.zip_cons_cons, List.foldlM_cons, h_group, map_bind_eq]
    cases h_next : m.refer line next with
    | error e => rfl
    | ok found =>
      obtain ⟨m', j⟩ := found
      -- the edge that is added changes no name
      have h_slot : (m'.connect ⟨i, j⟩).find? next = some j := (refer_eq_ok_iff.1 h_next).2
      exact ih h_slot

/-- **A path adds its steps.** A path of two names or more has the effect of the edge list of its
steps, or fails for the same name. -/
theorem addPath_eq_addGroups (m : Model) (line : Nat) {names : List String}
    (h : 2 ≤ names.length) :
    m.addPath line names = (names.zip names.tail).foldlM (Model.addGroup line) m := by
  match names, h with
  | first :: second :: names, _ =>
    rw [addPath, List.tail_cons, List.zip_cons_cons, List.foldlM_cons]
    cases h_first : m.refer line first with
    -- the first name is unknown, which ends the path and the first of its groups alike
    | error e =>
      unfold addGroup
      rw [h_first]
      rfl
    | ok found =>
      obtain ⟨m', i⟩ := found
      rw [addGroup_of_refer h_first]
      exact continuePath_eq_addGroups (refer_eq_ok_iff.1 h_first).2

end Model

namespace Notation

open Text Written

/-! ### Paths and the lines of their steps -/

/-- The edge list of the edges that a line gives. -/
def Line.unchained (line : Line) : Line :=
  .edgeList line.pairs

/-- The names of a path are names. -/
theorem isName_of_mem_path {first : Bool} {text : List Char} {names : List String}
    (h : Line.read? first text = some (.path names)) : ∀ name ∈ names, IsName name := by
  obtain ⟨w, -, rfl, -⟩ := read?_eq_path_iff.1 h
  have h_name : ∀ n : Name, IsName n.name := by
    intro n
    refine ⟨fun h_empty => n.nonempty ?_, fun c h_c => n.word c ?_⟩
    · simpa [Name.name] using h_empty
    · simpa [Name.name] using h_c
  intro name h_mem
  rcases List.mem_cons.1 h_mem with rfl | h_more
  · exact h_name w.first
  · obtain ⟨step, -, rfl⟩ := List.mem_map.1 h_more
    exact h_name step.2

/-- The steps of a path can be written as an edge list, and are read from it. -/
theorem legible_unchained {first first' : Bool} {text : List Char} {names : List String}
    (h : Line.read? first text = some (.path names)) :
    (Line.path names).unchained.Legible first' := by
  obtain ⟨-, -, -, h_two⟩ := read?_eq_path_iff.1 h
  have h_names := isName_of_mem_path h
  refine legible_edgeList ?_ fun group h_group => ?_
  · exact Line.HasContent.pairs_ne_nil h_two (by simp) (by simp)
  · obtain ⟨h_source, h_target⟩ := List.of_mem_zip h_group
    exact ⟨h_names _ h_source, h_names _ (List.mem_of_mem_tail h_target)⟩

/-- A path and the edge list of its steps have the same effect on a draft. -/
theorem Draft.addLine_unchained (d : Draft) (number : Nat) {names : List String}
    (h : 2 ≤ names.length) :
    d.addLine number (Line.path names).unchained = d.addLine number (.path names) := by
  have h_change : ∀ m : Model, (names.zip names.tail).foldlM (Model.addGroup number) m =
      m.addPath number names := fun m => (m.addPath_eq_addGroups number h).symm
  exact congrArg (d.change number) (funext h_change)

/-! ### Another text in the place of a line -/

/-- The source with another text in the place of one of its lines, which are counted from one. -/
def withLine (number : Nat) (line : List Char) (source : String) : String :=
  .ofList (joined '\n' ((lines source.toList).set (number - 1) line))

theorem contents_withLine {line : List Char} (h : '\n' ∉ line) (number : Nat) (source : String) :
    contents (withLine number line source) =
      (contents source).set (number - 1) (content line) := by
  -- a text has at least one line, and a line that is put in the place of another is still one
  have h_nonempty : (lines source.toList).set (number - 1) line ≠ [] := by
    rw [Ne, List.set_eq_nil_iff]
    exact List.splitOnP_ne_nil _ _
  unfold withLine
  rw [contents_joined h_nonempty, contents, List.map_set]
  intro l h_l
  rcases List.mem_or_eq_of_mem_set h_l with h_old | rfl
  · exact notMem_of_mem_lines h_old
  · exact h

/-- A kept line stands between the lines before it and those after it. -/
theorem exists_split_of_mem_keptFrom {start : Nat} {texts : List (List Char)} {kept : KeptLine}
    (h : kept ∈ keptFrom start texts) :
    ∃ before after, texts = before ++ kept.text :: after ∧ kept.number = start + before.length := by
  -- a kept line is found by its number among the contents
  obtain ⟨h_start, h_text, -⟩ := getElem?_of_mem_keptFrom h
  obtain ⟨h_lt, h_text⟩ := List.getElem?_eq_some_iff.1 h_text
  refine ⟨texts.take (kept.number - start), texts.drop (kept.number - start + 1), ?_, ?_⟩
  · rw [← h_text, List.getElem_cons_drop, List.take_append_drop]
  · rw [List.length_take]
    omega

/-- A kept line is classified apart from the lines around it, but for the question whether it is
the first. -/
theorem exists_classified_split (before after : List KeptLine) :
    ∃ first earlier later,
      (∀ r ∈ earlier, ∃ kept ∈ before, r.1 = kept.number) ∧
      (∀ r ∈ later, ∃ kept ∈ after, r.1 = kept.number) ∧
      ∀ kept : KeptLine, classified (before ++ kept :: after) =
        earlier ++ (kept.number, Line.read? first kept.text) :: later := by
  have h_later : ∀ r ∈ after.map fun k => (k.number, Line.read? false k.text),
      ∃ kept ∈ after, r.1 = kept.number := by
    intro r h_r
    obtain ⟨k, h_k, rfl⟩ := List.mem_map.1 h_r
    exact ⟨k, h_k, rfl⟩
  -- the rest of a source is read like any other line, and so is this one unless it opens the source
  cases before with
  | nil => exact ⟨true, [], _, by simp, h_later, fun kept => rfl⟩
  | cons k before =>
    refine ⟨false, classified (k :: before), _, fun r h_r => exists_of_mem_classified h_r, h_later,
      fun kept => ?_⟩
    rw [List.cons_append, classified, classified, List.map_append, List.map_cons, List.cons_append]

/-- **Another text in the place of a kept line** that says something changes the form of this line
and of no other. -/
theorem readings_withLine {source : String} {number : Nat} {form : Option Line}
    (h : (number, form) ∈ readings source) :
    ∃ first earlier later, readings source = earlier ++ (number, form) :: later ∧
      ∀ line, '\n' ∉ line → content line ≠ [] →
        readings (withLine number line source) =
          earlier ++ (number, Line.read? first (content line)) :: later := by
  obtain ⟨kept, h_kept, h_number⟩ := exists_of_mem_classified h
  obtain rfl : number = kept.number := h_number
  rw [keptLines_eq] at h_kept
  obtain ⟨-, -, h_text⟩ := getElem?_of_mem_keptFrom h_kept
  obtain ⟨before, after, h_contents, h_place⟩ := exists_split_of_mem_keptFrom h_kept
  obtain ⟨first, earlier, later, h_earlier, h_later, h_classified⟩ :=
    exists_classified_split (keptFrom 1 before) (keptFrom (1 + before.length + 1) after)
  -- the forms around the line do not hang on its text
  have h_readings : readings source =
      earlier ++ (kept.number, Line.read? first kept.text) :: later := by
    rw [readings, keptLines_eq, h_contents, keptFrom_append_cons h_text, h_classified, h_place]
  -- the lines before it have lesser numbers, and those after it greater ones
  have h_form : form = Line.read? first kept.text := by
    rw [h_readings, List.mem_append, List.mem_cons] at h
    rcases h with h_before | h_here | h_after
    · obtain ⟨k, h_k, h_same⟩ := h_earlier _ h_before
      have h_lt := number_lt_of_mem_keptFrom h_k
      omega
    · exact congrArg Prod.snd h_here
    · obtain ⟨k, h_k, h_same⟩ := h_later _ h_after
      obtain ⟨h_le, -⟩ := getElem?_of_mem_keptFrom h_k
      omega
  refine ⟨first, earlier, later, h_form ▸ h_readings, fun line h_line h_says => ?_⟩
  -- the new text stands in the place of the kept one
  have h_set : (contents source).set (kept.number - 1) (content line) =
      before ++ content line :: after := by
    rw [h_contents, h_place, Nat.add_sub_cancel_left, List.set_append_right _ _ (Nat.le_refl _),
      Nat.sub_self, List.set_cons_zero]
  rw [readings, keptLines_eq, contents_withLine h_line, h_set, keptFrom_append_cons h_says,
    h_classified, h_place]

/-! ### Paths in a source -/

section Unchained

variable {source : String} {number : Nat} {names : List String}

/-- The form of a line is read from some text. -/
theorem exists_read?_of_mem_readings {r : Reading} (h : r ∈ readings source) :
    ∃ first text, Line.read? first text = r.2 := by
  unfold readings at h
  cases h_kept : keptLines source with
  | nil =>
    rw [h_kept] at h
    cases h
  | cons kept rest =>
    rw [h_kept] at h
    rcases List.mem_cons.1 h with rfl | h_rest
    · exact ⟨true, kept.text, rfl⟩
    · obtain ⟨k, -, rfl⟩ := List.mem_map.1 h_rest
      exact ⟨false, k.text, rfl⟩

/-- Two lines that have the same effect on every draft can stand for each other. -/
theorem read_congr {source' : String} {earlier later : List Reading} {line line' : Line}
    (h : readings source = earlier ++ (number, some line) :: later)
    (h' : readings source' = earlier ++ (number, some line') :: later)
    (h_same : ∀ d : Draft, d.addLine number line' = d.addLine number line) :
    read source' = read source := by
  rw [read_eq, read_eq, h, h', List.foldlM_append, List.foldlM_append]
  congr 2
  funext d
  change (d.addLine number line' >>= _) = (d.addLine number line >>= _)
  rw [h_same]

variable (h : (number, some (Line.path names)) ∈ readings source)
include h

/-- A line that is read as the steps of a path takes its place. -/
theorem readings_unchained {line : List Char} {first : Bool} (h_line : '\n' ∉ line)
    (h_read : Line.read? first (content line) = some (Line.path names).unchained) :
    ∃ earlier later, readings source = earlier ++ (number, some (.path names)) :: later ∧
      readings (withLine number line source) =
        earlier ++ (number, some (Line.path names).unchained) :: later := by
  obtain ⟨first', earlier, later, h_old, h_new⟩ := readings_withLine h
  -- a text that says nothing has no form
  have h_says : content line ≠ [] := by
    intro h_nil
    rw [h_nil, read?_nil] at h_read
    cases h_read
  -- an edge list is read in the first line as in any other
  have h_read' : Line.read? first' (content line) = some (Line.path names).unchained :=
    read?_eq_edgeList_iff.2 (read?_eq_edgeList_iff.1 h_read)
  refine ⟨earlier, later, h_old, ?_⟩
  rw [h_new line h_line h_says, h_read']

/-- A source has the same model, or the same error, with the steps of a path in its place. -/
theorem read_of_unchained {line : List Char} {first : Bool} (h_line : '\n' ∉ line)
    (h_read : Line.read? first (content line) = some (Line.path names).unchained) :
    read (withLine number line source) = read source := by
  obtain ⟨earlier, later, h_old, h_new⟩ := readings_unchained h h_line h_read
  obtain ⟨first', text, h_text⟩ := exists_read?_of_mem_readings h
  obtain ⟨-, -, -, h_two⟩ := read?_eq_path_iff.1 h_text
  exact read_congr h_old h_new fun d => d.addLine_unchained number h_two

/-- **A path is short for the groups of its steps.** In the place of a kept line that is a path, let
a source have the edge list of its steps as it is written, `(a,b),(b,c)` for `a-b-c`, or any other
line that is read as this edge list. The line is read as the edge list and all others as before, and
the source has the same model, or the same error. -/
theorem read_unchained :
    (∃ earlier later, readings source = earlier ++ (number, some (.path names)) :: later ∧
      readings (withLine number (Line.edgeList (names.zip names.tail)).write source) =
        earlier ++ (number, some (.edgeList (names.zip names.tail))) :: later) ∧
    read (withLine number (Line.edgeList (names.zip names.tail)).write source) = read source ∧
    ∀ (line : List Char) (first : Bool), '\n' ∉ line →
      Line.read? first (content line) = some (.edgeList (names.zip names.tail)) →
      read (withLine number line source) = read source := by
  -- the path has two names or more, and these are legible, so its steps can be written
  obtain ⟨first, text, h_text⟩ := exists_read?_of_mem_readings h
  have h_legible : (Line.path names).unchained.Legible false := legible_unchained h_text
  have h_read : Line.read? false (content (Line.path names).unchained.write) =
      some (Line.path names).unchained := by
    rw [h_legible.kept, h_legible.read]
  exact ⟨readings_unchained h h_legible.oneLine h_read,
    read_of_unchained h h_legible.oneLine h_read,
    fun line first h_line h_line_read => read_of_unchained h h_line h_line_read⟩

end Unchained

/-- A path that declares its names, among lines that mention them before and after it. -/
private def winding : String := "-a\na\n c - b-c-a // and back\n(d, b)"

/-- The same path where its names have to be declared, and one of them is not. -/
private def lost : String := "b, c\nc-b-c-a-d\n01"

/-- The steps of the path declare its names in their order, and the edge list of the other path
fails for the name that the path fails for, before the matrix row is looked at. -/
theorem read_unchained_winding_lost :
    ((3, some (Line.path ["c", "b", "c", "a"])) ∈ readings winding ∧
      withLine 3 (Line.edgeList [("c", "b"), ("b", "c"), ("c", "a")]).write winding =
        "-a\na\n(c,b),(b,c),(c,a)\n(d, b)" ∧
      read (withLine 3 (Line.edgeList [("c", "b"), ("b", "c"), ("c", "a")]).write winding) =
        .ok ⟨{ auto := true }, ["a", "c", "b", "d"], [⟨1, 2⟩, ⟨2, 1⟩, ⟨1, 0⟩, ⟨3, 2⟩]⟩) ∧
    (2, some (Line.path ["c", "b", "c", "a", "d"])) ∈ readings lost ∧
      read (withLine 2 "(c,b) (b,c), ( c,a)(a,d) // lost\r".toList lost) =
        .error (.unknownVertex "a" 2) := by
  have h_winding : (3, some (Line.path ["c", "b", "c", "a"])) ∈ readings winding := by
    decide +kernel
  have h_lost : (2, some (Line.path ["c", "b", "c", "a", "d"])) ∈ readings lost := by
    decide +kernel
  obtain ⟨-, h_written, -⟩ := read_unchained h_winding
  obtain ⟨-, -, h_spaced⟩ := read_unchained h_lost
  refine ⟨⟨h_winding, by decide +kernel, ?_⟩, h_lost, ?_⟩
  · exact h_written.trans (by decide +kernel)
  · exact (h_spaced _ false (by decide +kernel) (by decide +kernel)).trans (by decide +kernel)

end Notation

end RingDiagram
