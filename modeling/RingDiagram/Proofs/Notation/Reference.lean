import Mathlib.Data.List.Forall2
import RingDiagram.Notation.Reading
import RingDiagram.Proofs.Outcome

/-!
# References to vertices

An edge of a source names its ends, and an edge of a model points at slots. Names are looked up
while the list of vertices is still growing, so a slot found early has to stay the right one. It
does, because vertices are only ever added at the end (`Model.find?_mono`).

* `Model.refer_eq_ok_iff` is the whole of a reference: the name is mentioned, which declares it if
  it has to and may be, and the slot is the first one of the name afterwards;
* `Model.Refers` relates an edge to the names of its ends, `Model.Grows` one model to a later one.
  `Grows` records the names of the edges added in between, all of them read in the *later* model,
  so it composes (`Grows.trans`);
* `addGroup_grows`, `addGroups_grows` and `addPath_grows` say of every way to add edges which names
  it mentions and which edges it adds.
-/

namespace RingDiagram

/-! ### Looking up a name -/

/-- The names of the vertices after a name is mentioned in an edge: it is declared if no vertex
carries it and mentions declare. -/
def mention (auto : Bool) (names : List String) (name : String) : List String :=
  if auto && !names.contains name then names ++ [name] else names

theorem prefix_mention (auto : Bool) (names : List String) (name : String) :
    names <+: mention auto names name := by
  unfold mention
  split
  · exact List.prefix_append names [name]
  · exact List.prefix_refl names

theorem mention_of_mem {auto : Bool} {names : List String} {name : String} (h : name ∈ names) :
    mention auto names name = names := by
  simp [mention, h]

namespace Model

variable {m m' m'' : Model} {name : String} {i : Nat}

theorem find?_eq_none_iff : m.find? name = none ↔ name ∉ m.vertices :=
  List.idxOf?_eq_none_iff

/-- A name refers to a slot that carries it. -/
theorem getElem?_of_find? (h : m.find? name = some i) : m.vertices[i]? = some name := by
  obtain ⟨h_lt, h_name, -⟩ := List.idxOf?_eq_some_iff.1 h
  rw [List.getElem?_eq_getElem h_lt, h_name]

theorem lt_of_find? (h : m.find? name = some i) : i < m.vertices.length := by
  obtain ⟨h_lt, -⟩ := List.idxOf?_eq_some_iff.1 h
  exact h_lt

/-- A slot that was found stays the one of its name when vertices are added at the end. -/
theorem find?_mono (h : m.vertices <+: m'.vertices) (h_i : m.find? name = some i) :
    m'.find? name = some i := by
  obtain ⟨added, h_added⟩ := h
  -- to be the slot of a name is to carry it with no slot before that does, and these slots all stay
  obtain ⟨h_lt, h_name, h_first⟩ := List.idxOf?_eq_some_iff.1 h_i
  refine List.idxOf?_eq_some_iff.2 ?_
  rw [← h_added]
  have h_lt' : i < (m.vertices ++ added).length := by
    rw [List.length_append]
    omega
  refine ⟨h_lt', ?_, fun j h_j => ?_⟩
  · rw [List.getElem_append_left h_lt, h_name]
  · rw [List.getElem_append_left (Nat.lt_trans h_j h_lt)]
    exact h_first j h_j

/-- A new vertex is the one of its name if no earlier vertex carries it. -/
theorem find?_declare (h : name ∉ m.vertices) :
    (m.declare name).find? name = some m.vertices.length := by
  refine List.idxOf?_eq_some_iff.2 ⟨by simp, by simp, fun j h_j => ?_⟩
  simp only [vertices_declare]
  rw [List.getElem_append_left h_j]
  exact fun h_eq => h (h_eq ▸ List.getElem_mem h_j)

/-- **A reference** succeeds with a slot when the name, once mentioned, is carried by that slot
first. -/
theorem refer_eq_ok_iff {line : Nat} :
    m.refer line name = .ok (m', i) ↔
      m' = { m with vertices := mention m.flags.auto m.vertices name } ∧
        m'.find? name = some i := by
  unfold refer
  cases h_find : m.find? name with
  | some j =>
    -- the name is known, and mentioning it changes nothing
    have h_mem : name ∈ m.vertices := List.mem_of_getElem? (getElem?_of_find? h_find)
    rw [mention_of_mem h_mem]
    constructor
    · intro h
      cases h
      exact ⟨rfl, h_find⟩
    · rintro ⟨rfl, h_i⟩
      rw [show Model.find? _ name = m.find? name from rfl, h_find] at h_i
      cases h_i
      rfl
  | none =>
    have h_mem : name ∉ m.vertices := find?_eq_none_iff.1 h_find
    by_cases h_auto : m.flags.auto = true
    · -- the new vertex is the only one of its name
      have h_vertices : mention m.flags.auto m.vertices name = m.vertices ++ [name] := by
        simp [mention, h_auto, h_mem]
      have h_slot := find?_declare h_mem
      rw [h_vertices]
      simp only [h_auto, if_true]
      constructor
      · intro h
        cases h
        exact ⟨rfl, h_slot⟩
      · rintro ⟨rfl, h_i⟩
        have h_eq := h_slot.symm.trans h_i
        cases h_eq
        rfl
    · -- mentions do not declare, so the name has no slot afterwards either
      have h_vertices : mention m.flags.auto m.vertices name = m.vertices := by
        simp [mention, h_auto]
      rw [h_vertices]
      simp only [h_auto]
      constructor
      · intro h
        cases h
      · rintro ⟨rfl, h_i⟩
        rw [show Model.find? _ name = m.find? name from rfl, h_find] at h_i
        cases h_i

/-! ### Edges and the names of their ends -/

/-- The ends of the edge are the slots that the two names refer to. -/
def Refers (m : Model) (e : Edge) (names : String × String) : Prop :=
  m.find? names.1 = some e.source ∧ m.find? names.2 = some e.target

theorem Refers.mono {e : Edge} {names : String × String} (h : m.vertices <+: m'.vertices)
    (h_refers : m.Refers e names) : m'.Refers e names :=
  ⟨find?_mono h h_refers.1, find?_mono h h_refers.2⟩

theorem Refers.within {e : Edge} {names : String × String} (h : m.Refers e names) :
    e.source < m.vertices.length ∧ e.target < m.vertices.length :=
  ⟨lt_of_find? h.1, lt_of_find? h.2⟩

/-- **Growth.** The later model has the same flags, more vertices at the end, and more edges at the
end, whose ends carry the given names first in the later model. -/
structure Grows (m m' : Model) (pairs : List (String × String)) : Prop where
  flags : m'.flags = m.flags
  vertices : m.vertices <+: m'.vertices
  edges : ∃ added, m'.edges = m.edges ++ added ∧ List.Forall₂ m'.Refers added pairs

theorem Grows.refl (m : Model) : m.Grows m [] where
  flags := rfl
  vertices := List.prefix_refl _
  edges := ⟨[], (List.append_nil _).symm, .nil⟩

theorem Grows.trans {pairs pairs' : List (String × String)} (h : m.Grows m' pairs)
    (h' : m'.Grows m'' pairs') : m.Grows m'' (pairs ++ pairs') where
  flags := h'.flags.trans h.flags
  vertices := h.vertices.trans h'.vertices
  edges := by
    obtain ⟨added, h_added, h_refers⟩ := h.edges
    obtain ⟨added', h_added', h_refers'⟩ := h'.edges
    refine ⟨added ++ added', ?_, ?_⟩
    · -- of the edges added, those of the first step come first
      rw [h_added', h_added, List.append_assoc]
    · -- the earlier edges are read in the last model as well
      exact List.rel_append (h_refers.imp fun _ _ h_r => h_r.mono h'.vertices) h_refers'

theorem grows_of_refer {line : Nat} (h : m.refer line name = .ok (m', i)) : m.Grows m' [] := by
  obtain ⟨rfl, -⟩ := refer_eq_ok_iff.1 h
  exact ⟨rfl, prefix_mention _ _ _, [], (List.append_nil _).symm, .nil⟩

theorem grows_connect {e : Edge} {names : String × String} (h : m.Refers e names) :
    m.Grows (m.connect e) [names] where
  flags := rfl
  vertices := List.prefix_refl _
  edges := ⟨[e], rfl, .cons h .nil⟩

/-- A group mentions its two names and adds the edge between them. -/
theorem addGroup_grows {line : Nat} {group : String × String}
    (h : m.addGroup line group = .ok m') :
    m.Grows m' [group] ∧
      m'.vertices = [group.1, group.2].foldl (mention m.flags.auto) m.vertices := by
  unfold addGroup at h
  obtain ⟨⟨m₁, source⟩, h_source, h⟩ := bind_eq_ok_iff.1 h
  obtain ⟨⟨m₂, target⟩, h_target, h⟩ := bind_eq_ok_iff.1 h
  cases h
  -- neither mention takes a vertex away or moves one
  have h_grows₁ := grows_of_refer h_source
  have h_grows₂ := grows_of_refer h_target
  obtain ⟨h_m₁, h_from⟩ := refer_eq_ok_iff.1 h_source
  obtain ⟨h_m₂, h_to⟩ := refer_eq_ok_iff.1 h_target
  -- the second name may have been declared after the first was found
  have h_refers : m₂.Refers ⟨source, target⟩ group :=
    ⟨find?_mono h_grows₂.vertices h_from, h_to⟩
  refine ⟨(h_grows₁.trans h_grows₂).trans (grows_connect h_refers), ?_⟩
  rw [vertices_connect, h_m₂, h_m₁]
  rfl

/-- The names that groups mention, in order. -/
def groupNames (groups : List (String × String)) : List String :=
  groups.flatMap fun group => [group.1, group.2]

/-- Groups mention their names and add their edges one after the other. -/
theorem addGroups_grows {line : Nat} {groups : List (String × String)}
    (h : groups.foldlM (Model.addGroup line) m = .ok m') :
    m.Grows m' groups ∧
      m'.vertices = (groupNames groups).foldl (mention m.flags.auto) m.vertices := by
  induction groups generalizing m with
  | nil =>
    cases h
    exact ⟨.refl _, rfl⟩
  | cons group groups ih =>
    obtain ⟨m₁, h_group, h_groups⟩ := foldlM_cons_eq_ok_iff.1 h
    obtain ⟨h_grows₁, h_vertices₁⟩ := addGroup_grows h_group
    obtain ⟨h_grows₂, h_vertices₂⟩ := ih h_groups
    refine ⟨h_grows₁.trans h_grows₂, ?_⟩
    rw [h_vertices₂, h_grows₁.flags, h_vertices₁, groupNames, groupNames, List.flatMap_cons,
      List.foldl_append]

/-- The rest of a path mentions its names and adds an edge from each name to the next, the first
one from the name of the vertex that it goes on from. -/
theorem continuePath_grows {line previous : Nat} {names : List String}
    (h_previous : m.find? name = some previous)
    (h : m.continuePath line previous names = .ok m') :
    m.Grows m' ((name :: names).zip names) ∧
      m'.vertices = names.foldl (mention m.flags.auto) m.vertices := by
  induction names generalizing m name previous with
  | nil =>
    cases h
    exact ⟨.refl _, rfl⟩
  | cons next names ih =>
    -- there is an edge to the next name, and the path goes on from there
    rw [continuePath] at h
    obtain ⟨⟨m₁, index⟩, h_next, h⟩ := bind_eq_ok_iff.1 h
    have h_grows₁ := grows_of_refer h_next
    obtain ⟨h_m₁, h_index⟩ := refer_eq_ok_iff.1 h_next
    -- the previous name was found before this mention, and its slot is still the one
    have h_refers : m₁.Refers ⟨previous, index⟩ (name, next) :=
      ⟨find?_mono h_grows₁.vertices h_previous, h_index⟩
    obtain ⟨h_grows₂, h_vertices₂⟩ := ih (m := m₁.connect ⟨previous, index⟩) h_index h
    refine ⟨(h_grows₁.trans (grows_connect h_refers)).trans h_grows₂, ?_⟩
    rw [h_vertices₂, vertices_connect, flags_connect, h_grows₁.flags, h_m₁, List.foldl_cons]

/-- A path mentions its names and adds an edge from each name to the next. -/
theorem addPath_grows {line : Nat} {names : List String} (h : m.addPath line names = .ok m') :
    m.Grows m' (names.zip names.tail) ∧
      m'.vertices = names.foldl (mention m.flags.auto) m.vertices := by
  cases names with
  | nil =>
    cases h
    exact ⟨.refl _, rfl⟩
  | cons name names =>
    rw [addPath] at h
    -- the first name is mentioned before any edge, and the rest goes on from its slot
    obtain ⟨⟨m₁, index⟩, h_name, h⟩ := bind_eq_ok_iff.1 h
    have h_grows₁ := grows_of_refer h_name
    obtain ⟨h_m₁, h_index⟩ := refer_eq_ok_iff.1 h_name
    obtain ⟨h_grows₂, h_vertices₂⟩ := continuePath_grows h_index h
    refine ⟨h_grows₁.trans h_grows₂, ?_⟩
    rw [h_vertices₂, h_grows₁.flags, h_m₁, List.foldl_cons]

/-! ### The edges by name -/

/-- The edges by name are what the slots of their ends carry. -/
theorem namedEdges_eq (m : Model) :
    m.namedEdges = m.edges.filterMap fun e =>
      m.vertices[e.source]?.bind fun source =>
        m.vertices[e.target]?.bind fun target => some (source, target) := by
  unfold namedEdges
  simp only [List.getElem?_toArray]
  rfl

/-- When the edges refer to some pairs of names, these are the edges by name. -/
theorem namedEdges_of_refers {pairs : List (String × String)}
    (h : List.Forall₂ m.Refers m.edges pairs) : m.namedEdges = pairs := by
  rw [namedEdges_eq]
  -- the vertices stay as they are, so the induction is on the edges alone
  generalize m.edges = edges at h
  induction h with
  | nil => rfl
  | cons h_refers _ ih =>
    rw [List.filterMap_cons, getElem?_of_find? h_refers.1, getElem?_of_find? h_refers.2, ih]
    rfl

end Model

end RingDiagram
