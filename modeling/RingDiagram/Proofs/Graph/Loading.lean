import RingDiagram.Graph.Network
import RingDiagram.Proofs.Outcome

/-!
# Loading a model

A network is loaded from a model edge by edge. An end of an edge is at fault if there is no vertex
in its slot, or an invisible one (`Model.endFault?`), and an edge has the fault of its source, or
else that of its target. What each step of loading comes to is one law: the fault if there is one,
and else the slot that an index refers to, the edge between two slots, or all of these edges
(`Network.endpoint?_outcome`, `Network.edge?_outcome`, `Network.ofModel?_outcome`). Everything else
about loading is read off the law of the whole:

* the error is the first fault of the edges (`Network.ofModel?_failsWith`), so a model is loaded if
  all edges end at visible vertices (`Network.exists_ofModel?_iff`);
* the edges of a network join the slots that the ends of edges refer to
  (`Network.parts_of_ofModel?`), and so where indices are slots a model that is loaded at all is
  loaded as it is (`Network.eq_of_ofModel?`);
* of a model whose edges end at vertices it has, and that has no more vertices than there are slots,
  only invisible names are faults. `Network.ofModel?_eq` gives the first of them among the ends of
  edges, or else the model as it is.
-/

namespace RingDiagram

/-! ### The names at the ends of edges -/

/-- The ends of an edge, the source first. -/
def Edge.ends (e : Edge) : List Nat :=
  [e.source, e.target]

/-- The names that the ends of edges carry, edge by edge. -/
def Model.endNames (m : Model) : List String :=
  (m.edges.flatMap Edge.ends).filterMap (m.vertices[·]?)

/-- Every edge ends at vertices that there are. -/
def Model.InRange (m : Model) : Prop :=
  ∀ e ∈ m.edges, e.Within m.vertices.length

instance (count : Nat) (e : Edge) : Decidable (e.Within count) :=
  inferInstanceAs (Decidable (_ ∧ _))

instance (m : Model) : Decidable m.InRange :=
  inferInstanceAs (Decidable (∀ e ∈ m.edges, e.Within m.vertices.length))

/-- Where all edges are in range so are their ends. -/
theorem Model.InRange.lt_of_mem_ends {m : Model} (h : m.InRange) {index : Nat}
    (h_index : index ∈ m.edges.flatMap Edge.ends) : index < m.vertices.length := by
  obtain ⟨e, h_e, h_end⟩ := List.mem_flatMap.1 h_index
  rcases List.mem_pair.1 h_end with rfl | rfl
  · exact (h e h_e).1
  · exact (h e h_e).2

/-- A model in range as a network: its vertices in their slots and its edges as they are. -/
def Model.toNetwork (m : Model) (h : m.InRange) : Network where
  flags := m.flags
  vertices := m.vertices.map Vertex.ofName
  edges := m.edges
  within := by
    intro e h_e
    rw [List.length_map]
    exact h e h_e

/-! ### Ends at fault -/

namespace Model

variable {m : Model} {slot slot' : Nat → Nat} {index : Nat} {e : Edge}

/-- There is a visible vertex in the slot. -/
def HasVisible (m : Model) (i : Nat) : Prop :=
  ∃ name, m.vertices[i]? = some name ∧ invisibleName name = false

/-- The fault of an end of an edge, if `slot` tells to which slot a number refers. -/
def endFault? (m : Model) (slot : Nat → Nat) (index : Nat) : Option RenderError :=
  match m.vertices[slot index]? with
  | none => some (.noSuchVertex index m.vertices.length)
  | some name => if invisibleName name then some (.endsAtInvisible name) else none

/-- The fault of an edge, that of its source first. -/
def edgeFault? (m : Model) (slot : Nat → Nat) (e : Edge) : Option RenderError :=
  (m.endFault? slot e.source).or (m.endFault? slot e.target)

/-- An end is not at fault if there is a visible vertex in its slot. -/
theorem endFault?_eq_none_iff : m.endFault? slot index = none ↔ m.HasVisible (slot index) := by
  unfold endFault? HasVisible
  cases m.vertices[slot index]? with
  | none => simp
  | some name => simp

theorem edgeFault?_eq_none_iff :
    m.edgeFault? slot e = none ↔ m.HasVisible (slot e.source) ∧ m.HasVisible (slot e.target) := by
  unfold edgeFault?
  rw [Option.or_eq_none_iff, endFault?_eq_none_iff, endFault?_eq_none_iff]

/-- An end is at fault for want of a vertex if there is none in its slot. -/
theorem endFault?_eq_noSuchVertex_iff {number count : Nat} :
    m.endFault? slot index = some (.noSuchVertex number count) ↔
      number = index ∧ count = m.vertices.length ∧ m.vertices.length ≤ slot index := by
  rw [← List.getElem?_eq_none_iff]
  unfold endFault?
  -- either there is no vertex in the slot, or its name decides
  cases m.vertices[slot index]? with
  | none => simp [eq_comm]
  | some name =>
    cases h : invisibleName name with
    | true => simp [h]
    | false => simp [h]

/-- The fault of an end is no fault of a drawing target. -/
theorem endFault?_ne_surface (m : Model) (slot : Nat → Nat) (index : Nat) (error : SurfaceError) :
    m.endFault? slot index ≠ some (.surface error) := by
  unfold endFault?
  cases m.vertices[slot index]? with
  | none => simp
  | some name => simp

/-- Numbers that refer to the same slot have the same fault. -/
theorem endFault?_congr (h : slot' index = slot index) :
    m.endFault? slot' index = m.endFault? slot index := by
  unfold endFault?
  rw [h]

theorem edgeFault?_congr (h : slot' e.source = slot e.source ∧ slot' e.target = slot e.target) :
    m.edgeFault? slot' e = m.edgeFault? slot e := by
  unfold edgeFault?
  rw [endFault?_congr h.1, endFault?_congr h.2]

/-- The first fault of edges is the first fault of their ends. -/
theorem findSome?_edgeFault? (m : Model) (slot : Nat → Nat) (edges : List Edge) :
    edges.findSome? (m.edgeFault? slot) =
      (edges.flatMap Edge.ends).findSome? (m.endFault? slot) := by
  induction edges with
  | nil => rfl
  | cons e edges ih =>
    -- the source of an edge stands before its target, as their faults do
    have h_ends : e.ends.findSome? (m.endFault? slot) = m.edgeFault? slot e := by
      rw [Edge.ends, findSome?_cons_eq_or, List.findSome?_singleton]
      rfl
    rw [findSome?_cons_eq_or, List.flatMap_cons, List.findSome?_append, h_ends, ih]

/-- Where ends have vertices their first fault is the first invisible name among them. -/
theorem findSome?_endFault?_of_lt {ends : List Nat}
    (h : ∀ index ∈ ends, slot index = index ∧ index < m.vertices.length) :
    ends.findSome? (m.endFault? slot) =
      ((ends.filterMap (m.vertices[·]?)).find? invisibleName).map .endsAtInvisible := by
  induction ends with
  | nil => rfl
  | cons index ends ih =>
    obtain ⟨⟨h_slot, h_lt⟩, h_rest⟩ := List.forall_mem_cons.1 h
    have h_fault : m.endFault? slot index = if invisibleName m.vertices[index]
        then some (.endsAtInvisible m.vertices[index]) else none := by
      unfold endFault?
      rw [h_slot, List.getElem?_eq_getElem h_lt]
    rw [findSome?_cons_eq_or, ih h_rest, h_fault, List.filterMap_cons,
      List.getElem?_eq_getElem h_lt]
    -- the name is the first invisible one, or it is passed over on both sides
    cases h_visible : invisibleName m.vertices[index] with
    | true => simp [h_visible]
    | false => simp [h_visible]

end Model

namespace Network

/-! ### One end, one edge, the whole model -/

variable {m : Model} {net : Network}

/-- An index below the number of slots is a slot. -/
theorem slotOf_of_lt {index : Nat} (h : index < 0x100000000) : slotOf index = index :=
  Nat.mod_eq_of_lt h

/-- **One end** fails with its fault, or is the slot that its index refers to. -/
theorem endpoint?_outcome (m : Model) (index : Nat) :
    (endpoint? (m.vertices.map Vertex.ofName).toArray index).map Subtype.val =
      outcome (m.endFault? slotOf index) (slotOf index) := by
  unfold endpoint? Model.endFault?
  by_cases h : slotOf index < m.vertices.length
  · -- the name in the slot decides
    cases h_visible : invisibleName m.vertices[slotOf index] with
    | true => simp [h, h_visible, Vertex.ofName, outcome, Except.map]
    | false => simp [h, h_visible, Vertex.ofName, outcome, Except.map]
  · simp [h, outcome, Except.map]

/-- **One edge** fails with its fault, or joins the slots that its ends refer to. -/
theorem edge?_outcome (m : Model) (e : Edge) :
    (edge? (m.vertices.map Vertex.ofName).toArray e).map Subtype.val =
      outcome (m.edgeFault? slotOf e) ⟨slotOf e.source, slotOf e.target⟩ := by
  -- the source is looked up before the target, and each is the slot that it refers to
  unfold edge?
  refine bind_outcome (endpoint?_outcome m e.source) fun source h_source => ?_
  refine bind_pure_outcome (endpoint?_outcome m e.target) fun target h_target => ?_
  show Edge.mk source.val target.val = _
  rw [h_source, h_target]

/-- **A model** fails to load with the first fault of its edges, or gives its flags, its names with
whether they are visible, and the edges between the slots that the ends of its edges refer to. -/
theorem ofModel?_outcome (m : Model) :
    (ofModel? m).map (fun net => (net.flags, net.vertices, net.edges)) =
      outcome (m.edges.findSome? (m.edgeFault? slotOf)) (m.flags, m.vertices.map Vertex.ofName,
        m.edges.map fun e => ⟨slotOf e.source, slotOf e.target⟩) := by
  -- all edges are looked up in order, and the rest of the network is taken over from the model
  unfold ofModel?
  dsimp only
  refine bind_pure_outcome (mapM_outcome fun e _ => edge?_outcome m e) fun kept h_kept => ?_
  show (m.flags, m.vertices.map Vertex.ofName, kept.map Subtype.val) = _
  rw [h_kept]

/-- The error of loading is the first fault of the edges. -/
theorem ofModel?_failsWith (m : Model) :
    FailsWith (ofModel? m) (m.edges.findSome? (m.edgeFault? slotOf)) :=
  .of_outcome (ofModel?_outcome m)

/-- **A model is loaded** if all edges end at visible vertices. -/
theorem exists_ofModel?_iff :
    (∃ net, ofModel? m = .ok net) ↔
      ∀ e ∈ m.edges, m.HasVisible (slotOf e.source) ∧ m.HasVisible (slotOf e.target) := by
  -- a model is loaded if no edge has a fault
  rw [(ofModel?_failsWith m).exists_ok_iff, List.findSome?_eq_none_iff]
  exact forall₂_congr fun e _ => Model.edgeFault?_eq_none_iff

/-- **A model that is loaded** keeps its flags and its names, and its edges join the slots that
their ends refer to. -/
theorem parts_of_ofModel? (h : ofModel? m = .ok net) :
    net.flags = m.flags ∧ net.vertices = m.vertices.map Vertex.ofName ∧
      net.edges = m.edges.map fun e => ⟨slotOf e.source, slotOf e.target⟩ := by
  obtain ⟨-, h_parts⟩ := value_of_outcome (ofModel?_outcome m) h
  simpa only [Prod.mk.injEq] using h_parts

/-- **A model whose indices are slots** is loaded as it is, if it is loaded at all. -/
theorem eq_of_ofModel? (h_index : ∀ e ∈ m.edges, e.Within 0x100000000)
    (h : ofModel? m = .ok net) :
    net.flags = m.flags ∧ net.vertices = m.vertices.map Vertex.ofName ∧ net.edges = m.edges := by
  obtain ⟨h_flags, h_vertices, h_edges⟩ := parts_of_ofModel? h
  -- an index below the number of slots is not changed
  have h_same : ∀ e ∈ m.edges, (⟨slotOf e.source, slotOf e.target⟩ : Edge) = e := by
    intro e h_e
    rw [slotOf_of_lt (h_index e h_e).1, slotOf_of_lt (h_index e h_e).2]
  refine ⟨h_flags, h_vertices, ?_⟩
  rw [h_edges, List.map_congr_left h_same]
  exact List.map_id m.edges

/-- Loading does not fail for a drawing target. -/
theorem ofModel?_ne_surface (m : Model) (e : SurfaceError) :
    ofModel? m ≠ .error (.surface e) := by
  intro h
  have h_fault := (ofModel?_failsWith m _).1 h
  -- the fault of a model is that of one of its ends
  rw [Model.findSome?_edgeFault?] at h_fault
  obtain ⟨index, -, h_index⟩ := List.exists_of_findSome?_eq_some h_fault
  exact m.endFault?_ne_surface slotOf index e h_index

/-! ### Models in range -/

section InRange

variable (h_range : m.InRange) (h_slots : m.vertices.length ≤ 0x100000000)
include h_slots

include h_range in
/-- The only faults of a model in range are invisible names. -/
theorem findSome?_edgeFault?_of_inRange :
    m.edges.findSome? (m.edgeFault? slotOf) =
      (m.endNames.find? invisibleName).map .endsAtInvisible := by
  rw [Model.findSome?_edgeFault?]
  refine Model.findSome?_endFault?_of_lt fun index h_index => ?_
  have h_lt := h_range.lt_of_mem_ends h_index
  exact ⟨slotOf_of_lt (Nat.lt_of_lt_of_le h_lt h_slots), h_lt⟩

/-- **Loading a model in range** fails with the first invisible name among the ends of its edges,
or gives its vertices and edges as they are. -/
theorem ofModel?_eq :
    ofModel? m =
      match m.endNames.find? invisibleName with
      | some name => .error (.endsAtInvisible name)
      | none => .ok (m.toNetwork h_range) := by
  -- the same fault on both sides, and without one what is loaded is known by its parts
  have h_fails := ofModel?_failsWith m
  rw [findSome?_edgeFault?_of_inRange h_range h_slots] at h_fails
  cases h_find : m.endNames.find? invisibleName with
  | some name =>
    rw [h_find] at h_fails
    exact (h_fails _).2 rfl
  | none =>
    rw [h_find] at h_fails
    obtain ⟨net, h_net⟩ := h_fails.exists_ok_iff.2 rfl
    have h_index : ∀ e ∈ m.edges, e.Within 0x100000000 := fun e h_e =>
      ⟨Nat.lt_of_lt_of_le (h_range e h_e).1 h_slots, Nat.lt_of_lt_of_le (h_range e h_e).2 h_slots⟩
    -- a network is its flags, its vertices and its edges
    obtain ⟨h_flags, h_vertices, h_edges⟩ := eq_of_ofModel? h_index h_net
    obtain ⟨flags, vertices, edges, within⟩ := net
    subst h_flags h_vertices h_edges
    exact h_net

include h_range

/-- The one error of loading is the first invisible name. -/
theorem ofModel?_eq_error_iff {e : RenderError} :
    ofModel? m = .error e ↔
      ∃ name, m.endNames.find? invisibleName = some name ∧ e = .endsAtInvisible name := by
  rw [ofModel?_eq h_range h_slots]
  cases m.endNames.find? invisibleName with
  | some name => simp [eq_comm]
  | none => simp

/-- A model is loaded as it is, its names together with whether they are visible. -/
theorem ofModel?_eq_ok_iff {net : Network} :
    ofModel? m = .ok net ↔
      m.endNames.find? invisibleName = none ∧ net.flags = m.flags ∧
        net.vertices = m.vertices.map Vertex.ofName ∧ net.edges = m.edges := by
  rw [ofModel?_eq h_range h_slots]
  cases m.endNames.find? invisibleName with
  | some name => simp
  | none =>
    obtain ⟨flags, vertices, edges, within⟩ := net
    simp [Model.toNetwork, eq_comm]

/-- A model is loaded unless an edge ends at an invisible name. -/
theorem exists_ofModel?_eq_ok_iff :
    (∃ net, ofModel? m = .ok net) ↔ ∀ name ∈ m.endNames, invisibleName name = false := by
  rw [ofModel?_eq h_range h_slots]
  cases h_find : m.endNames.find? invisibleName with
  | some name =>
    have h_mem := List.mem_of_find?_eq_some h_find
    have h_invisible := List.find?_some h_find
    refine ⟨?_, fun h => ?_⟩
    · rintro ⟨net, h_net⟩
      cases h_net
    · rw [h name h_mem] at h_invisible
      cases h_invisible
  | none =>
    refine ⟨fun _ name h_name => ?_, fun _ => ⟨_, rfl⟩⟩
    simpa using List.find?_eq_none.1 h_find name h_name

end InRange

end Network

end RingDiagram
