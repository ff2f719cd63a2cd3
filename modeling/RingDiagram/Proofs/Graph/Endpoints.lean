import RingDiagram.Proofs.Graph.Loading

/-!
# Ends of edges

A model may be built by hand, with any numbers at the ends of its edges. `Model.LoadsBy` says what
loading makes of it, if it is known to which slot a number refers: which models are accepted, which
edges they have then, and which error the others have.

* A number refers to the slot of its low 32 bits (`Model.loadsBy_slotOf`), which is the law of
  loading, `Network.ofModel?_outcome`. What else it could refer to makes no difference where the
  first fault is the same, and the edges are if there is none (`Model.loadsBy_iff`).
* Numbers of 32 bits are slots themselves. A greater one may have no vertex and still be taken for
  one of a vertex; whether this happens to an end that is looked at is all that matters
  (`Model.loadsBy_id_iff`).
-/

namespace RingDiagram

variable {m : Model} {slot : Nat → Nat}

namespace Model

/-! ### Loading by slots -/

/-- **Loading**, if `slot` tells to which slot a number refers. A model is accepted exactly if both
ends of every edge refer to slots of visible vertices, its edges then join these slots, and
otherwise the first edge at fault decides. -/
structure LoadsBy (m : Model) (slot : Nat → Nat) : Prop where
  accepted : (∃ net, Network.ofModel? m = .ok net) ↔
    ∀ e ∈ m.edges, m.HasVisible (slot e.source) ∧ m.HasVisible (slot e.target)
  kept : ∀ net, Network.ofModel? m = .ok net →
    net.edges = m.edges.map fun e => ⟨slot e.source, slot e.target⟩
  refused : ∀ error, Network.ofModel? m = .error error ↔
    ∃ before e after, m.edges = before ++ e :: after ∧
      m.edgeFault? slot e = some error ∧ ∀ f ∈ before, m.edgeFault? slot f = none

/-! ### Slots of numbers -/

/-- **Numbers refer to slots** by their low 32 bits. -/
theorem loadsBy_slotOf (m : Model) : m.LoadsBy slotOf where
  accepted := Network.exists_ofModel?_iff
  kept _ h_net := (Network.parts_of_ofModel? h_net).2.2
  refused error := by
    rw [Network.ofModel?_failsWith m error, List.findSome?_eq_some_iff]

/-- **Other slots** of numbers make no difference if the first fault is the same and, where there is
none, the edges are. -/
theorem loadsBy_iff :
    m.LoadsBy slot ↔
      m.edges.findSome? (m.edgeFault? slot) = m.edges.findSome? (m.edgeFault? slotOf) ∧
        (m.edges.findSome? (m.edgeFault? slotOf) = none →
          ∀ e ∈ m.edges, slot e.source = slotOf e.source ∧ slot e.target = slotOf e.target) := by
  constructor
  · intro h
    refine ⟨Option.ext fun error => ?_, fun h_none => ?_⟩
    · -- both readings of the numbers give the same errors, so they give the same first fault
      rw [← Network.ofModel?_failsWith m error, h.refused, List.findSome?_eq_some_iff]
    · obtain ⟨net, h_net⟩ := (Network.ofModel?_failsWith m).exists_ok_iff.2 h_none
      -- a model that loads has the same edges under both readings
      have h_edges := (h.kept net h_net).symm.trans (m.loadsBy_slotOf.kept net h_net)
      intro e h_e
      exact Edge.mk.inj (List.map_inj_left.1 h_edges e h_e)
  · rintro ⟨h_fault, h_slot⟩
    constructor
    case accepted =>
      -- the first fault is the same, so there is none under one reading where there is none under
      -- the other
      rw [(Network.ofModel?_failsWith m).exists_ok_iff, ← h_fault, List.findSome?_eq_none_iff]
      exact forall₂_congr fun e _ => edgeFault?_eq_none_iff
    case kept =>
      intro net h_net
      have h_slots := h_slot ((Network.ofModel?_failsWith m).exists_ok_iff.1 ⟨net, h_net⟩)
      rw [m.loadsBy_slotOf.kept net h_net]
      refine List.map_congr_left fun e h_e => ?_
      rw [(h_slots e h_e).1, (h_slots e h_e).2]
    case refused =>
      intro error
      rw [Network.ofModel?_failsWith m error, ← h_fault, List.findSome?_eq_some_iff]

/-- A model whose numbers are slots loads as it is written. -/
theorem loadsBy_id (h : ∀ e ∈ m.edges, e.Within 0x100000000) : m.LoadsBy id := by
  have h_slot : ∀ e ∈ m.edges, id e.source = slotOf e.source ∧ id e.target = slotOf e.target :=
    fun e h_e => ⟨(Network.slotOf_of_lt (h e h_e).1).symm, (Network.slotOf_of_lt (h e h_e).2).symm⟩
  -- where the slots are the same so are the faults
  refine loadsBy_iff.2 ⟨?_, fun _ => h_slot⟩
  rw [← List.head?_filterMap, ← List.head?_filterMap,
    List.filterMap_congr fun e h_e => edgeFault?_congr (h_slot e h_e)]

/-- No number is taken for another one: if it stands at an end that is looked at, with visible
vertices at all ends before it, and has no vertex, then its low 32 bits have none either. -/
def Unwrapped (m : Model) : Prop :=
  ∀ earlier index later, m.edges.flatMap Edge.ends = earlier ++ index :: later →
    (∀ i ∈ earlier, m.HasVisible i) → m.vertices.length ≤ index →
      m.vertices.length ≤ slotOf index

/-- Ends have the same first fault under both readings of a number if none is taken for another. -/
theorem findSome?_slotOf_eq {ends : List Nat} (h_slots : m.vertices.length ≤ 0x100000000)
    (h : ∀ earlier index later, ends = earlier ++ index :: later →
      (∀ i ∈ earlier, m.HasVisible i) → m.vertices.length ≤ index →
        m.vertices.length ≤ slotOf index) :
    ends.findSome? (m.endFault? id) = ends.findSome? (m.endFault? slotOf) := by
  induction ends with
  | nil => rfl
  | cons index ends ih =>
    -- the number has a vertex and is its own slot, or it has none
    have h_first : m.endFault? id index = m.endFault? slotOf index := by
      rcases Nat.lt_or_ge index m.vertices.length with h_lt | h_ge
      · exact endFault?_congr (Network.slotOf_of_lt (Nat.lt_of_lt_of_le h_lt h_slots)).symm
      · -- there is no vertex under either reading
        have h_none := h [] index ends rfl (fun i h_i => nomatch h_i) h_ge
        rw [endFault?_eq_noSuchVertex_iff.2 ⟨rfl, rfl, h_ge⟩,
          endFault?_eq_noSuchVertex_iff.2 ⟨rfl, rfl, h_none⟩]
    rw [findSome?_cons_eq_or, findSome?_cons_eq_or, ← h_first]
    -- a fault here ends the search, and without one the end is visible and comes before the rest
    cases h_fault : m.endFault? id index with
    | some error => rfl
    | none =>
      have h_visible : m.HasVisible index := endFault?_eq_none_iff.1 h_fault
      rw [Option.none_or, Option.none_or]
      refine ih fun earlier i later h_split h_earlier => ?_
      exact h (index :: earlier) i later (congrArg (List.cons index) h_split)
        (List.forall_mem_cons.2 ⟨h_visible, h_earlier⟩)

/-- **A model loads as it is written** exactly if no number is taken for another one. -/
theorem loadsBy_id_iff (h_slots : m.vertices.length ≤ 0x100000000) :
    m.LoadsBy id ↔ m.Unwrapped := by
  rw [loadsBy_iff, findSome?_edgeFault?, findSome?_edgeFault?]
  constructor
  · rintro ⟨h_fault, -⟩ earlier index later h_ends h_earlier h_ge
    -- the end is the first at fault, and so a fault in its name is reported
    have h_first : (m.edges.flatMap Edge.ends).findSome? (m.endFault? id) =
        some (.noSuchVertex index m.vertices.length) := by
      refine List.findSome?_eq_some_iff.2 ⟨earlier, index, later, h_ends, ?_, fun i h_i => ?_⟩
      · exact endFault?_eq_noSuchVertex_iff.2 ⟨rfl, rfl, h_ge⟩
      · exact endFault?_eq_none_iff.2 (h_earlier i h_i)
    rw [h_fault] at h_first
    obtain ⟨-, i, -, -, h_i, -⟩ := List.findSome?_eq_some_iff.1 h_first
    obtain ⟨rfl, -, h_none⟩ := endFault?_eq_noSuchVertex_iff.1 h_i
    exact h_none
  · intro h
    have h_fault := findSome?_slotOf_eq h_slots h
    refine ⟨h_fault, fun h_none e h_e => ?_⟩
    -- without a fault all numbers are slots of vertices
    rw [← h_fault, ← findSome?_edgeFault?, List.findSome?_eq_none_iff] at h_none
    obtain ⟨⟨a, h_a, -⟩, b, h_b, -⟩ := edgeFault?_eq_none_iff.1 (h_none e h_e)
    have h_source := Nat.lt_of_lt_of_le (List.getElem?_eq_some_iff.1 h_a).1 h_slots
    have h_target := Nat.lt_of_lt_of_le (List.getElem?_eq_some_iff.1 h_b).1 h_slots
    exact ⟨(Network.slotOf_of_lt h_source).symm, (Network.slotOf_of_lt h_target).symm⟩

end Model

/-- **Ends of edges.** Of every model that is built by hand it is known how it loads: numbers refer
to slots by their low 32 bits, the model is accepted exactly if both ends of every edge refer to
slots of visible vertices, its edges then join these slots, and otherwise the first edge at fault
decides, its source before its target. If all numbers fit into 32 bits, they are the slots
themselves, so that the edges are those of the model and a number without a vertex is refused. Among
the models that have no more vertices than there are slots, these and all others load in that way
exactly if no number is taken for another one. -/
theorem endpoints_exact (m : Model) :
    m.LoadsBy slotOf ∧
      ((∀ e ∈ m.edges, e.Within 0x100000000) → m.LoadsBy id) ∧
      (m.vertices.length ≤ 0x100000000 → (m.LoadsBy id ↔ m.Unwrapped)) :=
  ⟨m.loadsBy_slotOf, Model.loadsBy_id, Model.loadsBy_id_iff⟩

/-- A model with an edge that ends nowhere and one that ends at an invisible vertex. -/
private def dangling : Model where
  vertices := ["a", "_x"]
  edges := [⟨0, 0⟩, ⟨7, 1⟩, ⟨1, 0⟩]

/-- The number without a vertex comes first. -/
theorem endpoints_exact_dangling :
    (∀ e ∈ dangling.edges, e.Within 0x100000000) ∧ dangling.vertices.length ≤ 0x100000000 ∧
      dangling.Unwrapped ∧ Network.ofModel? dangling = .error (.noSuchVertex 7 2) := by
  have h_within : ∀ e ∈ dangling.edges, e.Within 0x100000000 := by decide
  have h_slots : dangling.vertices.length ≤ 0x100000000 := by decide
  obtain ⟨-, h_loads, h_iff⟩ := endpoints_exact dangling
  refine ⟨h_within, h_slots, (h_iff h_slots).1 (h_loads h_within), ?_⟩
  exact ((h_loads h_within).refused _).2
    ⟨[⟨0, 0⟩], ⟨7, 1⟩, [⟨1, 0⟩], rfl, by decide, by decide⟩

/-- A model of one vertex with an edge to a number that does not fit into 32 bits. -/
private def wrapping : Model where
  vertices := ["a"]
  edges := [⟨0, 0x100000000⟩]

/-- The number is taken for the one vertex there is, though it is no slot. -/
theorem wrapping_loads :
    ¬ wrapping.LoadsBy id ∧
      ∃ net, Network.ofModel? wrapping = .ok net ∧ net.edges = [⟨0, 0⟩] := by
  have h_loads : ∃ net, Network.ofModel? wrapping = .ok net := by
    rw [wrapping.loadsBy_slotOf.accepted]
    intro e h_e
    rw [List.mem_singleton.1 h_e]
    exact ⟨⟨"a", rfl, by decide⟩, ⟨"a", rfl, by decide⟩⟩
  refine ⟨fun h => ?_, ?_⟩
  · obtain ⟨-, name, h_name, -⟩ := h.accepted.1 h_loads ⟨0, 0x100000000⟩ List.mem_cons_self
    cases h_name
  · obtain ⟨net, h_net⟩ := h_loads
    exact ⟨net, h_net, wrapping.loadsBy_slotOf.kept net h_net⟩

end RingDiagram
