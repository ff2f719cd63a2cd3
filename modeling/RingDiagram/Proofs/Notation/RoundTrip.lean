import RingDiagram.Notation.Printer
import RingDiagram.Proofs.Graph.Loading
import RingDiagram.Proofs.Notation.Comments
import RingDiagram.Proofs.Notation.Grammar
import RingDiagram.Proofs.Notation.Listing

/-!
# Writing a model and reading it

A model whose names are words and whose edges end at the first slots of their names can be written
down (`Model.Expressible`), and reading what is written gives the model back: `read_write`. The two
layers of the reader are crossed one after the other, and meet at `Says`:

* the text. A line that is read off its own text survives being put among others
  (`Line.Legible`, `says_joined`). What the lines of a model are written as is written text in the
  sense of the grammar, without gaps (`exists_names_joined`, `exists_groups_joined`), so the
  grammar says that they are read (`says_write`);
* the lines. `Draft.Takes` is a run of lines over a draft, whatever their numbers. All vertices are
  declared before the first edge, so every name of an edge is found where the edge ends, and
  nothing is declared on the way (`Model.addGroups_of_refers`): the `auto` flag makes no difference.
-/

namespace RingDiagram

namespace Notation

open Text Written

/-! ### Texts of legible lines -/

/-- The line stands on one line of its own, where it is kept as it is and read as what it is. -/
structure Line.Legible (first : Bool) (line : Line) : Prop where
  oneLine : '\n' ∉ line.write
  kept : content line.write = line.write
  read : Line.read? first line.write = some line

theorem read?_nil (first : Bool) : Line.read? first [] = none := by
  cases first <;> rfl

/-- A legible line is kept with its number. -/
theorem Line.Legible.of?_eq {first : Bool} {line : Line} (h : line.Legible first) (number : Nat) :
    KeptLine.of? (line.write, number) = some ⟨number, line.write⟩ := by
  -- an empty line would have no form
  have h_nonempty : line.write ≠ [] := by
    intro h_nil
    have h_read := h.read
    rw [h_nil, read?_nil] at h_read
    cases h_read
  unfold KeptLine.of?
  simp [h.kept, h_nonempty]

/-- Legible lines are kept and read, wherever they stand. -/
theorem map_read?_filterMap_of? {lines : List Line} (start : Nat)
    (h : ∀ line ∈ lines, line.Legible false) :
    (((lines.map Line.write).zipIdx start).filterMap KeptLine.of?).map
      (fun kept => Line.read? false kept.text) = lines.map some := by
  induction lines generalizing start with
  | nil => rfl
  | cons line lines ih =>
    obtain ⟨h_line, h_lines⟩ := List.forall_mem_cons.1 h
    rw [List.map_cons, List.zipIdx_cons, List.filterMap_cons, h_line.of?_eq, List.map_cons,
      h_line.read, ih _ h_lines, List.map_cons]

/-- **A text of legible lines** says these lines. -/
theorem says_joined {line : Line} {lines : List Line} (h_first : line.Legible true)
    (h_rest : ∀ line ∈ lines, line.Legible false) :
    Says (String.ofList (joined '\n' ((line :: lines).map Line.write))) (line :: lines) := by
  have h_lines : Text.lines (joined '\n' ((line :: lines).map Line.write)) =
      (line :: lines).map Line.write := by
    -- no line holds a line feed, so the text is cut where it was joined
    refine List.splitOn_intercalate '\n' (fun text h_text => ?_) (by simp)
    obtain ⟨line', h_line', rfl⟩ := List.mem_map.1 h_text
    rcases List.mem_cons.1 h_line' with rfl | h_line'
    · exact h_first.oneLine
    · exact (h_rest line' h_line').oneLine
  unfold Says forms readings keptLines
  rw [String.toList_ofList, h_lines, List.map_cons, List.zipIdx_cons, List.filterMap_cons,
    h_first.of?_eq, classified, List.map_cons, List.map_map, h_first.read, List.map_cons]
  exact congrArg (some line :: ·) (map_read?_filterMap_of? _ h_rest)

/-- A line without slashes, line feeds and blanks at its ends is legible if it is read. -/
theorem Line.Legible.of_read? {first : Bool} {line : Line}
    (h_chars : ∀ c ∈ line.write, c ≠ '\n' ∧ c ≠ '/') (h_trim : trim line.write = line.write)
    (h_read : Line.read? first line.write = some line) : line.Legible first where
  oneLine h := (h_chars _ h).1 rfl
  kept := by rw [content, beforeComment_eq_self fun h => (h_chars _ h).2 rfl, h_trim]
  read := h_read

/-! ### The lines of a model -/

/-- Word characters end no line and begin no comment. -/
theorem ne_of_isWordChar {c : Char} (h : isWordChar c = true) : c ≠ '\n' ∧ c ≠ '/' := by
  constructor
  · rintro rfl
    revert h
    decide
  · rintro rfl
    revert h
    decide

theorem isWordChar_of_mem_letters {modes : Flags} {c : Char} (h : c ∈ modes.letters) :
    isWordChar c = true := by
  simp only [Flags.letters, List.mem_append, List.mem_ite_nil_right, List.mem_singleton] at h
  rcases h with ((⟨-, rfl⟩ | ⟨-, rfl⟩) | ⟨-, rfl⟩) | ⟨-, rfl⟩
  all_goals decide

/-- Flags are legible in the first line. -/
theorem legible_flags (modes : Flags) : (Line.flags modes).Legible true := by
  have h_last : (Line.flags modes).write.getLast?.any isBlank = false := by
    -- a letter, or the hyphen if no flag is on
    rw [Line.write, List.getLast?_cons]
    cases h_letter : modes.letters.getLast? with
    | none => exact isMark_hyphen.blank
    | some c =>
      have h_word := isWordChar_of_mem_letters (List.mem_of_getLast? h_letter)
      exact isBlank_of_isWordChar h_word
  have h_chars : ∀ c ∈ (Line.flags modes).write, c ≠ '\n' ∧ c ≠ '/' := by
    intro c h_c
    rcases List.mem_cons.1 h_c with rfl | h_c
    · decide
    · exact ne_of_isWordChar (isWordChar_of_mem_letters h_c)
  refine .of_read? h_chars (trim_eq_self isMark_hyphen.blank h_last) ?_
  have h_break : '\n' ∉ modes.letters := fun h => (h_chars _ (List.mem_cons_of_mem _ h)).1 rfl
  exact read?_eq_flags_iff.2
    ⟨rfl, modes.letters, rfl, h_break, (Flags.ofLetters_letters modes).symm⟩

/-- A name that can be written: a word character or more. -/
structure IsName (name : String) : Prop where
  nonempty : name ≠ ""
  word : ∀ c ∈ name.toList, isWordChar c = true

/-- The name as it is written. -/
def IsName.written {name : String} (h : IsName name) : Name where
  letters := name.toList
  nonempty := fun h_nil => h.nonempty (String.toList_eq_nil_iff.1 h_nil)
  word := h.word

theorem IsName.name_written {name : String} (h : IsName name) : h.written.name = name :=
  String.ofList_toList

/-- Names that are joined are written, without gaps. -/
theorem exists_names_joined (separator : Char) {names : List String} (h_nonempty : names ≠ [])
    (h_names : ∀ name ∈ names, IsName name) :
    ∃ w : Names, w.text separator = joined separator (names.map String.toList) ∧
      w.names = names := by
  induction names with
  | nil => exact absurd rfl h_nonempty
  | cons name names ih =>
    obtain ⟨h_name, h_names⟩ := List.forall_mem_cons.1 h_names
    cases names with
    | nil =>
      refine ⟨⟨h_name.written, []⟩, ?_, ?_⟩
      · simp [Names.text, Names.textAfter, joined, IsName.written]
      · rw [Names.names, h_name.name_written, List.map_nil]
    | cons next names =>
      -- the names after the first are written, and a separator without gaps puts the first before
      -- them
      obtain ⟨w, h_text, h_read⟩ := ih (List.cons_ne_nil _ _) h_names
      refine ⟨⟨h_name.written, ((noGap, noGap), w.first) :: w.more⟩, ?_, ?_⟩
      · rw [List.map_cons, List.map_cons, joined, List.intercalate_cons_cons, ← List.map_cons]
        change _ = _ ++ joined separator _
        rw [← h_text, Names.text, Names.textAfter_cons]
        simp [Names.text, noGap, IsName.written]
      · rw [Names.names, h_name.name_written, ← h_read]
        rfl

/-- Groups that are joined with commas are written, without gaps. -/
theorem exists_groups_joined {groups : List (String × String)} (h_nonempty : groups ≠ [])
    (h_names : ∀ group ∈ groups, IsName group.1 ∧ IsName group.2) :
    ∃ w : Groups, w.text = joined ',' (groups.map writeGroup) ∧ w.groups = groups := by
  induction groups with
  | nil => exact absurd rfl h_nonempty
  | cons group groups ih =>
    obtain ⟨⟨h_source, h_target⟩, h_names⟩ := List.forall_mem_cons.1 h_names
    -- the gaps of a group that is written by hand are all empty
    let g : Group := ⟨noGap, h_source.written, noGap, noGap, h_target.written, noGap⟩
    have h_g : g.text = writeGroup group := by
      simp [g, Group.text, writeGroup, noGap, IsName.written]
    have h_g_names : g.names = group := by
      rw [Group.names, h_source.name_written, h_target.name_written]
    cases groups with
    | nil =>
      refine ⟨⟨g, []⟩, ?_, ?_⟩
      · simp [Groups.text, Groups.textAfter, joined, h_g]
      · rw [Groups.groups, h_g_names, List.map_nil]
    | cons next groups =>
      obtain ⟨w, h_text, h_read⟩ := ih (List.cons_ne_nil _ _) h_names
      refine ⟨⟨g, (.comma noGap noGap, w.first) :: w.more⟩, ?_, ?_⟩
      · rw [List.map_cons, List.map_cons, joined, List.intercalate_cons_cons, ← List.map_cons]
        change _ = _ ++ joined ',' _
        rw [← h_text, ← h_g, Groups.text, Groups.textAfter_cons]
        simp [Groups.text, Joint.text, noGap]
      · rw [Groups.groups, h_g_names, ← h_read]
        rfl

/-- The characters of joined texts. -/
theorem mem_joined {separator c : Char} {texts : List (List Char)}
    (h : c ∈ joined separator texts) : c = separator ∨ ∃ text ∈ texts, c ∈ text := by
  induction texts with
  | nil => cases h
  | cons text texts ih =>
    cases texts with
    | nil =>
      rw [joined, List.intercalate_singleton] at h
      exact Or.inr ⟨text, List.mem_cons_self, h⟩
    | cons next texts =>
      rw [joined, List.intercalate_cons_cons, List.append_assoc, List.mem_append] at h
      rcases h with h_text | h_rest
      · exact Or.inr ⟨text, List.mem_cons_self, h_text⟩
      · rcases List.mem_cons.1 h_rest with h_separator | h_rest
        · exact Or.inl h_separator
        · rcases ih h_rest with h_separator | ⟨text', h_text', h_c⟩
          · exact Or.inl h_separator
          · exact Or.inr ⟨text', List.mem_cons_of_mem _ h_text', h_c⟩

/-- Names are legible as a vertex list in any line, unless they are a single name of digits. -/
theorem legible_vertexList {first : Bool} {names : List String} (h_nonempty : names ≠ [])
    (h_names : ∀ name ∈ names, IsName name)
    (h_digits : ∀ name, names = [name] → ¬ ∀ c ∈ name.toList, c.isDigit = true) :
    (Line.vertexList names).Legible first := by
  obtain ⟨w, h_text, h_read⟩ := exists_names_joined ',' h_nonempty h_names
  have h_chars : ∀ c ∈ (Line.vertexList names).write, c ≠ '\n' ∧ c ≠ '/' := by
    intro c h_c
    rcases mem_joined h_c with rfl | ⟨text, h_text, h_c⟩
    · decide
    · obtain ⟨name, h_name, rfl⟩ := List.mem_map.1 h_text
      exact ne_of_isWordChar ((h_names name h_name).word c h_c)
  have h_write : (Line.vertexList names).write = w.text ',' := h_text.symm
  refine .of_read? h_chars (h_write ▸ w.trim_text ',') ?_
  rw [h_write, read?_eq_vertexList_iff]
  refine ⟨⟨w, rfl, h_read⟩, ?_⟩
  -- the only text of names that is a matrix row would be one name of digits
  rintro ⟨-, -, h_all⟩
  rcases names with _ | ⟨name, _ | ⟨next, names⟩⟩
  · exact h_nonempty rfl
  · have h_single : w.text ',' = name.toList := by
      rw [h_text]
      exact List.intercalate_singleton
    exact h_digits name rfl (h_single ▸ h_all)
  · -- two names have a comma between them
    have h_comma := h_all ',' (Names.separator_mem (by simp [h_read]))
    revert h_comma
    decide

/-- Groups of names are legible in any line. -/
theorem legible_edgeList {first : Bool} {groups : List (String × String)} (h_nonempty : groups ≠ [])
    (h_names : ∀ group ∈ groups, IsName group.1 ∧ IsName group.2) :
    (Line.edgeList groups).Legible first := by
  obtain ⟨w, h_text, h_read⟩ := exists_groups_joined h_nonempty h_names
  have h_chars : ∀ c ∈ (Line.edgeList groups).write, c ≠ '\n' ∧ c ≠ '/' := by
    intro c h_c
    rcases mem_joined h_c with rfl | ⟨text, h_text, h_c⟩
    · decide
    · obtain ⟨group, h_group, rfl⟩ := List.mem_map.1 h_text
      obtain ⟨h_source, h_target⟩ := h_names group h_group
      simp only [writeGroup, List.cons_append, List.append_assoc, List.mem_cons, List.mem_append,
        List.not_mem_nil, or_false] at h_c
      rcases h_c with rfl | h_c | rfl | h_c | rfl
      · decide
      · exact ne_of_isWordChar (h_source.word c h_c)
      · decide
      · exact ne_of_isWordChar (h_target.word c h_c)
      · decide
  have h_write : (Line.edgeList groups).write = w.text := h_text.symm
  refine .of_read? h_chars (h_write ▸ w.trim_text) ?_
  rw [h_write, read?_eq_edgeList_iff]
  exact ⟨w, rfl, h_read⟩

/-! ### Lines over a draft -/

/-- Adding lines takes one draft to another, whatever the numbers of the lines are. -/
def Draft.Takes (d : Draft) (lines : List Line) (d' : Draft) : Prop :=
  ∀ rs : List Reading, rs.map Prod.snd = lines.map some → rs.foldlM Draft.addReading d = .ok d'

namespace Draft.Takes

variable {d d' d'' : Draft} {lines : List Line}

theorem nil : d.Takes [] d := by
  intro rs h_rs
  obtain rfl := List.map_eq_nil_iff.1 h_rs
  rfl

theorem single {line : Line} (h_line : ∀ number, d.addLine number line = .ok d') :
    d.Takes [line] d' := by
  intro rs h_rs
  obtain ⟨⟨number, form⟩, rs', rfl, h_form, h_rs'⟩ := List.map_eq_cons_iff.1 h_rs
  obtain rfl : form = some line := h_form
  obtain rfl := List.map_eq_nil_iff.1 h_rs'
  exact foldlM_cons_eq_ok_iff.2 ⟨d', h_line number, rfl⟩

theorem append {more : List Line} (h : d.Takes lines d') (h_more : d'.Takes more d'') :
    d.Takes (lines ++ more) d'' := by
  intro rs h_rs
  rw [List.map_append] at h_rs
  obtain ⟨rs₁, rs₂, rfl, h_rs₁, h_rs₂⟩ := List.map_eq_append_iff.1 h_rs
  rw [List.foldlM_append, h rs₁ h_rs₁]
  exact h_more rs₂ h_rs₂

/-- A source is read as its lines are added. -/
theorem read_eq_close {source : String} (h_lines : Says source lines)
    (h : Draft.Takes {} lines d) : read source = d.close := by
  rw [read_eq, h _ h_lines]
  rfl

end Draft.Takes

end Notation

/-! ### The lines of a model -/

namespace Model

open Notation

/-- **A model that can be written.** The names of its vertices are words, every edge ends at the
first slots of two names, and its vertices are not a single name of ASCII digits, which would be a
matrix row. -/
structure Expressible (m : Model) : Prop where
  names : ∀ name ∈ m.vertices, IsName name
  inRange : m.InRange
  first : ∀ e ∈ m.edges, ∀ i ∈ e.ends, ∀ name, m.vertices[i]? = some name → m.find? name = some i
  notDigits : ∀ name, m.vertices = [name] → ¬ ∀ c ∈ name.toList, c.isDigit = true

/-- The vertices, if there are any, are declared in one line. -/
theorem takes_vertices (m : Model) : Draft.Takes { model := { flags := m.flags } }
    (if m.vertices.isEmpty then [] else [.vertexList m.vertices])
    { model := { m with edges := [] } } := by
  split
  · next h_empty =>
    rw [List.isEmpty_iff.1 h_empty]
    exact .nil
  · exact .single fun _ => Draft.addVertexList_eq_ok_iff.2 ⟨rfl, rfl⟩

section Refers

variable {m : Model}

theorem refer_of_find? {line i : Nat} {name : String} (h : m.find? name = some i) :
    m.refer line name = .ok (m, i) := by
  rw [refer, h]

theorem addGroup_of_refers {line : Nat} {e : Edge} {group : String × String}
    (h : m.Refers e group) : m.addGroup line group = .ok (m.connect e) := by
  rw [addGroup, refer_of_find? h.1]
  change (m.refer line group.2 >>= _) = _
  rw [refer_of_find? h.2]
  rfl

/-- **Groups of known names** add their edges and declare nothing. -/
theorem addGroups_of_refers {line : Nat} {edges : List Edge} {groups : List (String × String)}
    (h : List.Forall₂ m.Refers edges groups) :
    groups.foldlM (Model.addGroup line) m = .ok { m with edges := m.edges ++ edges } := by
  induction groups generalizing m edges with
  | nil =>
    cases h
    rw [List.append_nil]
    rfl
  | cons group groups ih =>
    cases h with
    -- an edge of the list goes with a group, and both its names are known
    | @cons e _ edges _ h_refers h_rest =>
      -- another edge changes nothing about the vertices, so the other names are still known
      have h_rest' : List.Forall₂ (m.connect e).Refers edges groups :=
        h_rest.imp fun _ _ h_r => h_r.mono (List.prefix_refl _)
      rw [List.foldlM_cons, addGroup_of_refers h_refers]
      change groups.foldlM _ (m.connect e) = _
      rw [ih h_rest', edges_connect, List.append_assoc]
      rfl

/-- The ends of edges by name are names of vertices. -/
theorem mem_vertices_of_mem_namedEdges {group : String × String} (h : group ∈ m.namedEdges) :
    group.1 ∈ m.vertices ∧ group.2 ∈ m.vertices := by
  rw [namedEdges_eq] at h
  obtain ⟨e, -, h_e⟩ := List.mem_filterMap.1 h
  obtain ⟨source, h_source, h_e⟩ := Option.bind_eq_some_iff.1 h_e
  obtain ⟨target, h_target, h_e⟩ := Option.bind_eq_some_iff.1 h_e
  cases h_e
  exact ⟨List.mem_of_getElem? h_source, List.mem_of_getElem? h_target⟩

end Refers

namespace Expressible

variable {m : Model} (h : m.Expressible)
include h

/-- The edges refer to the names of their ends. -/
theorem refers : List.Forall₂ m.Refers m.edges m.namedEdges := by
  have h_names : ∀ e ∈ m.edges, ∃ names, m.Refers e names := by
    -- the slots of an edge hold names, and it ends at the first slots of these
    intro e h_e
    obtain ⟨h_source, h_target⟩ := h.inRange e h_e
    exact ⟨(m.vertices[e.source], m.vertices[e.target]),
      h.first e h_e e.source (by simp [Edge.ends]) _ (List.getElem?_eq_getElem h_source),
      h.first e h_e e.target (by simp [Edge.ends]) _ (List.getElem?_eq_getElem h_target)⟩
  choose! names h_refers using h_names
  have h_all : List.Forall₂ m.Refers m.edges (m.edges.map names) :=
    List.forall₂_map_right_iff.2 (List.forall₂_same.2 h_refers)
  rw [namedEdges_of_refers h_all]
  exact h_all

/-- What a model is written as says its lines. -/
theorem says_write : Says m.write m.lines := by
  -- the flags stand in the first line, and the lines after it are not read as flags
  refine says_joined (legible_flags m.flags) (fun line h_line => ?_)
  -- the line is there only if there are vertices, or edges, to write
  rcases List.mem_append.1 h_line with h_line | h_line
  · split at h_line
    · cases h_line
    · next h_vertices =>
      obtain rfl := List.mem_singleton.1 h_line
      exact legible_vertexList (fun h_nil => h_vertices (h_nil ▸ rfl)) h.names h.notDigits
  · split at h_line
    · cases h_line
    · next h_edges =>
      obtain rfl := List.mem_singleton.1 h_line
      refine legible_edgeList (fun h_nil => h_edges ?_) fun group h_group => ?_
      · -- there are as many edges by name as there are edges
        have h_length := h.refers.length_eq
        rw [h_nil] at h_length
        exact List.isEmpty_iff.2 (List.length_eq_zero_iff.1 h_length)
      · obtain ⟨h_source, h_target⟩ := mem_vertices_of_mem_namedEdges h_group
        exact ⟨h.names _ h_source, h.names _ h_target⟩

/-- The edges, if there are any, are added in one line behind the vertices. -/
theorem takes_edges : Draft.Takes { model := { m with edges := [] } }
    (if m.edges.isEmpty then [] else [.edgeList m.namedEdges]) { model := m } := by
  split
  · next h_empty =>
    have h_same : { m with edges := [] } = m := by
      rw [← List.isEmpty_iff.1 h_empty]
    rw [h_same]
    exact .nil
  · refine .single fun number => ?_
    -- every name is that of a vertex already, so nothing is declared
    have h_refers : List.Forall₂ { m with edges := [] }.Refers m.edges m.namedEdges :=
      h.refers.imp fun _ _ h_r => h_r.mono (List.prefix_refl _)
    rw [Draft.addLine, Draft.change_eq_ok_iff]
    exact ⟨rfl, m, addGroups_of_refers h_refers, rfl⟩

/-- The lines of a model lead from nothing to the model. -/
theorem takes_lines : Draft.Takes {} m.lines { model := m } := by
  have h_flags : Draft.Takes {} [.flags m.flags] { model := { flags := m.flags } } :=
    .single fun _ => rfl
  exact h_flags.append (m.takes_vertices.append h.takes_edges)

end Expressible

end Model

namespace Notation

open Text

/-- **Writing and reading.** A model that can be written is read from what it is written as: with
the same flags, the vertices in the same order, repeats included, and the edges in the same
order. -/
theorem read_write {m : Model} (h : m.Expressible) : read m.write = .ok m := by
  rw [Draft.Takes.read_eq_close h.says_write h.takes_lines]
  rfl

/-- A model of names that are numbers, that are invisible and that come twice, under all flags but
one, with a loop and two edges of one pair. -/
private def numbered : Model where
  flags := { directed := true, auto := true, flipped := true }
  vertices := ["1", "_x", "22", "1", "é_"]
  edges := [⟨0, 1⟩, ⟨1, 0⟩, ⟨2, 2⟩, ⟨4, 0⟩]

/-- The names of the model with numbers are read as names, and its second `1` stays where it is. -/
theorem read_write_numbered :
    numbered.Expressible ∧
      numbered.write = "-daf\n1,_x,22,1,é_\n(1,_x),(_x,1),(22,22),(é_,1)" ∧
      read numbered.write = .ok numbered := by
  have h : numbered.Expressible := by
    have h_words : ∀ name ∈ numbered.vertices,
        name ≠ "" ∧ name.toList.all isWordChar = true := by
      decide +kernel
    constructor
    case names =>
      intro name h_name
      obtain ⟨h_nonempty, h_word⟩ := h_words name h_name
      exact ⟨h_nonempty, List.all_eq_true.1 h_word⟩
    case inRange =>
      unfold Model.InRange Edge.Within
      decide
    case first =>
      -- no edge ends at the fourth vertex, whose name the first one has
      have h_slots : ∀ e ∈ numbered.edges, ∀ i ∈ e.ends,
          numbered.vertices[i]?.bind numbered.find? = some i := by
        decide
      intro e h_e i h_i name h_name
      have h_slot := h_slots e h_e i h_i
      rwa [h_name] at h_slot
    case notDigits =>
      intro name h_single
      cases h_single
  exact ⟨h, by decide +kernel, read_write h⟩

end Notation

end RingDiagram
