import RingDiagram.Proofs.Drawing.Commands

/-!
# One edge of each pair

Under the `simple` flag a drawing skips the edges whose pair has been drawn, and counts them all the
same. That comes to drawing a model that has no other edges to begin with: `Model.simplified` sets
the flag, `Model.thinned` drops the edges, and the two have one drawing (`simple_exact`).

A drawing can fail in three places, and the first error has to be the same in all of them.

* Loading looks at the ends of all edges, dropped or not. But an edge of the same pair has the same
  ends, so a dropped one has no fault that is not found before it (`find?_endNames_firstEdges`).
* Routing sees the same edges with the same bends on both sides (`keptEdges_firstEdges`), so the
  layouts are equal, errors included (`Model.layout_thinned`).
* What is painted hangs on the layout alone.
-/

namespace RingDiagram

open Scalar

/-- The model drawn under the `simple` flag. -/
def Model.simplified (m : Model) : Model :=
  { m with flags := { m.flags with simple := true } }

/-- The model with the first edge of each pair and no other, drawn without the `simple` flag. -/
def Model.thinned (m : Model) : Model :=
  { m with flags := { m.flags with simple := false }, edges := firstEdges m.edges }

variable {m : Model}

theorem Model.InRange.simplified (h : m.InRange) : m.simplified.InRange := h

theorem Model.InRange.thinned (h : m.InRange) : m.thinned.InRange := by
  intro e h_e
  exact h e ((firstEdges_sublist m.edges).mem h_e)

/-! ### Loading -/

/-- Edges of one pair have the same ends, in one order or the other. -/
theorem mem_ends_of_pair_eq {e f : Edge} (h : e.pair = f.pair) {i : Nat} (h_i : i ∈ f.ends) :
    i ∈ e.ends := by
  rcases Edge.pair_eq_iff.1 h with rfl | rfl
  · exact h_i
  · simpa [Edge.ends, Edge.reverse, or_comm] using h_i

/-- The first invisible name at the end of an edge is at the end of a first edge. -/
theorem find?_endNames_firstEdges (m : Model) :
    m.thinned.endNames.find? invisibleName = m.simplified.endNames.find? invisibleName := by
  -- the search through the names at all ends is one through the edges, edge by edge
  have h_search : ∀ edges : List Edge,
      ((edges.flatMap Edge.ends).filterMap (m.vertices[·]?)).find? invisibleName =
        edges.findSome? fun e => (e.ends.filterMap (m.vertices[·]?)).find? invisibleName := by
    intro edges
    rw [List.filterMap_flatMap, List.find?_flatMap]
  -- what is found at an edge is found at every edge of its pair
  have h_pair : ∀ e f : Edge, e.pair = f.pair →
      (e.ends.filterMap (m.vertices[·]?)).find? invisibleName = none →
      (f.ends.filterMap (m.vertices[·]?)).find? invisibleName = none := by
    intro e f h h_e
    -- a name at an end of `f` is at an end of `e`, where it would have been found
    rw [List.find?_eq_none] at h_e ⊢
    intro name h_name
    obtain ⟨i, h_i, h_get⟩ := List.mem_filterMap.1 h_name
    exact h_e name (List.mem_filterMap.2 ⟨i, mem_ends_of_pair_eq h h_i, h_get⟩)
  change ((firstEdges m.edges).flatMap Edge.ends |>.filterMap (m.vertices[·]?)).find? _ =
    ((m.edges.flatMap Edge.ends).filterMap (m.vertices[·]?)).find? _
  rw [h_search, h_search]
  exact findSome?_firstEdges h_pair m.edges

/-! ### Layout -/

/-- Routes that draw edges have the edges and their bends. -/
theorem map_route_of_draws {α : Type} [Mul α] [Neg α] [NatCast α] [BEq α] {bendiness : α}
    {kept : List (Edge × Bend)} {routes : List (Route α)}
    (h : List.Forall₂ (Route.Draws bendiness) kept routes) :
    routes.map (fun r => (r.edge, r.bend, r.reversed)) =
      kept.map fun bent => (bent.1, bent.2.index, bent.2.reversed) := by
  induction h with
  | nil => rfl
  | cons h_draws _ ih =>
    rw [List.map_cons, List.map_cons, ih, h_draws.edge, h_draws.bend, h_draws.reversed]

variable {α : Type} [Add α] [Sub α] [Mul α] [Div α] [Neg α] [NatCast α] [LT α] [DecidableLT α]
  [BEq α] [Scalar α]

/-- The layout of a network hangs on its vertices, on whether it is directed, and on the edges that
are drawn of it. -/
theorem Network.layout_congr {net net' : Network} (h_vertices : net.vertices = net'.vertices)
    (h_directed : net.flags.directed = net'.flags.directed)
    (h_kept : keptEdges net.flags.simple net.edges = keptEdges net'.flags.simple net'.edges)
    (settings : Settings α) (width height : α) :
    net.layout settings width height = net'.layout settings width height := by
  have h_count : net.vertices.length = net'.vertices.length := congrArg List.length h_vertices
  rw [net.layout_eq, net'.layout_eq, h_kept, Network.place_congr h_count,
    Network.ringCenter_congr h_count, h_vertices, h_directed]

/-- **One layout**: dropping the edges beforehand and skipping them on the way come to the same,
and fail with the same error. -/
theorem Model.layout_thinned (h_range : m.InRange) (h_slots : m.vertices.length ≤ 0x100000000)
    (settings : Settings α) (width height : α) :
    m.simplified.layout settings width height = m.thinned.layout settings width height := by
  unfold Model.layout
  rw [Network.ofModel?_eq h_range.simplified h_slots, Network.ofModel?_eq h_range.thinned h_slots,
    find?_endNames_firstEdges]
  -- both are refused for the same name, or both are loaded as they are
  cases m.simplified.endNames.find? invisibleName with
  | some name => rfl
  | none =>
    change (m.simplified.toNetwork h_range.simplified).layout settings width height =
      (m.thinned.toNetwork h_range.thinned).layout settings width height
    apply Network.layout_congr
    case h_vertices | h_directed => rfl
    case h_kept => exact (keptEdges_firstEdges m.edges).symm

/-- **The routes of a simple layout** are those of the first edges, none of them bent or
reversed. -/
theorem Model.map_edges_of_layout_simplified (h_range : m.InRange)
    (h_slots : m.vertices.length ≤ 0x100000000) {settings : Settings α} {width height : α}
    {layout : Layout α} (h : m.simplified.layout settings width height = .ok layout) :
    layout.edges.map (fun r => (r.edge, r.bend, r.reversed)) =
      (firstEdges m.edges).map fun e => (e, 0, false) := by
  obtain ⟨net, h_net, h_layout⟩ := bind_eq_ok_iff.1 h
  obtain ⟨-, h_flags, -, h_edges⟩ :=
    (Network.ofModel?_eq_ok_iff h_range.simplified h_slots).1 h_net
  -- under the flag the edges that are kept are the first of their pairs
  have h_kept : keptEdges net.flags.simple net.edges = keptEdges true m.edges := by
    rw [h_flags, h_edges]
    rfl
  rw [map_route_of_draws (Network.draws_of_layout h_layout), h_kept, keptEdges_simple,
    List.map_map]
  rfl

/-- A first edge is not bent, so if that means that it is drawn straight, it has a route: a simple
layout fails for an invisible end of an edge only. -/
theorem Model.exists_layout_simplified (h_range : m.InRange)
    (h_slots : m.vertices.length ≤ 0x100000000) {settings : Settings α}
    (h_straight : (bendDisplacement 0 settings.bendiness false == nat 0) = true)
    (h_visible : m.simplified.endNames.find? invisibleName = none) (width height : α) :
    ∃ layout, m.simplified.layout settings width height = .ok layout := by
  have h_net := Network.ofModel?_eq h_range.simplified h_slots
  rw [h_visible] at h_net
  unfold Model.layout
  rw [h_net]
  change ∃ layout, (m.simplified.toNetwork h_range.simplified).layout settings width height =
    .ok layout
  cases h : (m.simplified.toNetwork h_range.simplified).layout settings width height with
  | ok layout => exact ⟨layout, rfl⟩
  | error e =>
    have h_fault := (Network.layout_failsWith _ settings width height e).1 h
    obtain ⟨bent, h_bent, h_bent_fault⟩ := List.exists_of_findSome?_eq_some h_fault
    change bent ∈ keptEdges true m.edges at h_bent
    -- an edge that is kept has the first bend, which is no bend at all
    rw [keptEdges_simple] at h_bent
    obtain ⟨e', -, rfl⟩ := List.mem_map.1 h_bent
    exact absurd (Or.inr (Or.inl h_straight)) (routeFault?_eq_some_iff.1 h_bent_fault).1

/-! ### The whole drawing -/

/-- **The `simple` flag keeps the first edge of each pair.** A model has the same drawing under the
flag as the model that has these edges only has without it, and the same layout, and where there is
none it is for the same error. The edges that are left are some of the model, in its order: of each
pair the first, and no other. So in a layout under the flag no edge is bent or reversed, and of
each pair that there is one edge is drawn. -/
theorem simple_exact (h_range : m.InRange) (h_slots : m.vertices.length < 0xFFFFFFFF)
    (settings : Settings α) (width height : α) :
    m.simplified.drawing settings width height = m.thinned.drawing settings width height ∧
    m.simplified.layout settings width height = m.thinned.layout settings width height ∧
    (firstEdges m.edges).Sublist m.edges ∧
    (∀ p, (firstEdges m.edges).filter (·.pair = p) = (m.edges.filter (·.pair = p)).take 1) ∧
    ∀ layout, m.simplified.layout settings width height = .ok layout →
      layout.edges.map Route.edge = firstEdges m.edges ∧
      (∀ r ∈ layout.edges, r.bend = 0 ∧ r.reversed = false) ∧
      ∀ e ∈ m.edges, layout.edges.countP (·.edge.pair = e.pair) = 1 := by
  have h_slots' : m.vertices.length ≤ 0x100000000 := by omega
  have h_layout := m.layout_thinned h_range h_slots' settings width height
  refine ⟨?_, h_layout, firstEdges_sublist m.edges, fun p => filter_pair_firstEdges p m.edges,
    fun layout h => ?_⟩
  · rw [Model.drawing_eq, Model.drawing_eq, h_layout]
  · have h_routes := Model.map_edges_of_layout_simplified h_range h_slots' h
    have h_edges : layout.edges.map Route.edge = firstEdges m.edges := by
      calc layout.edges.map Route.edge
          = (layout.edges.map fun r => (r.edge, r.bend, r.reversed)).map Prod.fst := by
            rw [List.map_map]
            rfl
        -- the routes hold the edges that they draw, next to bend and orientation
        _ = ((firstEdges m.edges).map fun e => (e, 0, false)).map Prod.fst := by rw [h_routes]
        _ = firstEdges m.edges := by
            rw [List.map_map]
            exact List.map_id _
    refine ⟨h_edges, fun r h_r => ?_, fun e h_e => ?_⟩
    · have h_mem : (r.edge, r.bend, r.reversed) ∈
          (firstEdges m.edges).map fun e => (e, 0, false) := h_routes ▸ List.mem_map_of_mem h_r
      obtain ⟨e, -, h_same⟩ := List.mem_map.1 h_mem
      rw [Prod.mk.injEq, Prod.mk.injEq] at h_same
      exact ⟨h_same.2.1.symm, h_same.2.2.symm⟩
    · -- the edge itself is one of its pair, so there is a first one
      have h_some : 0 < m.edges.countP (·.pair = e.pair) :=
        List.countP_pos_iff.2 ⟨e, h_e, decide_eq_true rfl⟩
      -- the routes of a pair are counted by their edges, the first edges, and these hold one of
      -- each pair
      calc layout.edges.countP (·.edge.pair = e.pair)
          = (layout.edges.map Route.edge).countP (·.pair = e.pair) := by
            rw [List.countP_map]
            rfl
        _ = (firstEdges m.edges).countP (·.pair = e.pair) := by rw [h_edges]
        _ = min 1 (m.edges.countP (·.pair = e.pair)) := countP_pair_firstEdges e.pair m.edges
        _ = 1 := Nat.min_eq_left h_some

/-- Two edges that run against each other, a loop that comes twice, and one more edge. -/
private def tangled : Model where
  vertices := ["a", "b", "c"]
  edges := [⟨0, 1⟩, ⟨2, 2⟩, ⟨1, 0⟩, ⟨1, 2⟩, ⟨2, 2⟩]

/-- Three of the five edges are drawn. -/
theorem simple_exact_tangled :
    tangled.InRange ∧ tangled.vertices.length < 0xFFFFFFFF ∧
      firstEdges tangled.edges = [⟨0, 1⟩, ⟨2, 2⟩, ⟨1, 2⟩] ∧
      tangled.simplified.drawing (Settings.standard : Settings Float) 300 300 =
        tangled.thinned.drawing Settings.standard 300 300 ∧
      ∃ layout, tangled.simplified.layout (Settings.standard : Settings Float) 300 300 =
          .ok layout ∧
        layout.edges.map Route.edge = [⟨0, 1⟩, ⟨2, 2⟩, ⟨1, 2⟩] := by
  have h_range : tangled.InRange := by decide
  have h_slots : tangled.vertices.length < 0xFFFFFFFF := by decide
  have h_first : firstEdges tangled.edges = [⟨0, 1⟩, ⟨2, 2⟩, ⟨1, 2⟩] := by decide
  obtain ⟨h_drawing, -, -, -, h_routes⟩ :=
    simple_exact h_range h_slots (Settings.standard : Settings Float) 300 300
  -- the first bend of the standard settings is none, so the simple layout is there
  have h_straight : (bendDisplacement 0 (Settings.standard : Settings Float).bendiness false ==
      nat 0) = true := by decide
  obtain ⟨layout, h_layout⟩ := Model.exists_layout_simplified h_range (by decide) h_straight
    (by decide) 300 300
  have h_edges := (h_routes layout h_layout).1
  rw [h_first] at h_edges
  exact ⟨h_range, h_slots, h_first, h_drawing, layout, h_layout, h_edges⟩

end RingDiagram
