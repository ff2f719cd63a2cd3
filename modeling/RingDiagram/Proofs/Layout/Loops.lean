import RingDiagram.Proofs.Geometry.Tangency
import RingDiagram.Proofs.Layout.Headings

/-!
# Loops nest outside the ring

A loop is drawn with the circle over a segment that leads from its vertex away from the centre of
the ring. So the circles of all loops at a vertex have their centres on one line through it, and so
has the ring: in exact numbers each of them touches the vertex along the direction that leads
outwards, a loop by its radius (`Route.stroke_ofLoop`) and the ring by its own radius to the other
side (`Circle.around_eq_touching`). How they lie is then known from how circles lie that touch in
one point.

* Every loop lies outside the ring and meets it in the vertex only (`Route.growsFrom_ofLoop`).
* The radius of a loop grows with its bend. Of two loops the one with the lesser bend lies in the
  other, and they meet in the vertex only (`Route.nestsIn_ofLoop`).
-/

namespace RingDiagram

open Scalar

/-! ### Loops of a sequence of edges -/

/-- A loop shares its pair with equal loops only. -/
theorem Edge.pair_eq_loop_iff {e : Edge} {slot : Nat} :
    e.pair = (slot, slot) ↔ e = ⟨slot, slot⟩ := by
  have h_pair : (⟨slot, slot⟩ : Edge).pair = (slot, slot) := by simp [Edge.pair]
  have h_reverse : (⟨slot, slot⟩ : Edge).reverse = ⟨slot, slot⟩ := rfl
  rw [← h_pair, Edge.pair_eq_iff, h_reverse, or_self]

/-- The bends of the loops at a vertex count up. -/
theorem map_index_loops (edges : List Edge) (slot : Nat) :
    (parallels edges (slot, slot)).map (·.2.index) = List.range (edges.count ⟨slot, slot⟩) := by
  rw [map_index_parallels, List.count]
  -- both sides count edges, and an edge has the pair of a loop when it is that loop
  congr 1
  apply List.countP_congr
  intro e _
  rw [decide_eq_true_iff, beq_iff_eq, Edge.pair_eq_loop_iff]

section Route

variable {α : Type} [Add α] [Sub α] [Mul α] [Div α] [Neg α] [NatCast α] [LT α] [DecidableLT α]
  [BEq α] [Scalar α] {places : Array (Point α)} {slot : Nat} {vertex : Point α}

/-- **A loop** is routed from the place of its vertex, whatever its bend. -/
theorem Route.of_loop (h : places[slot]? = some vertex) (center : Point α) (bendiness : α)
    {edges : List Edge} {bent : Edge × Bend} (h_bent : bent ∈ edges.zip (bends edges))
    (h_loop : bent.1 = ⟨slot, slot⟩) :
    Route.of places center bendiness bent =
      .ok (Route.ofLoop center vertex bendiness bent.1 bent.2) := by
  -- a loop that is turned around is the same loop
  have h_drawn : bent.2.drawn = ⟨slot, slot⟩ := by
    rcases drawn_cases h_bent with ⟨h_drawn, -⟩ | ⟨h_drawn, -⟩
    · rw [h_drawn, h_loop]
    · rw [h_drawn, h_loop]
      rfl
  have h_isLoop : bent.1.isLoop = true := by
    rw [h_loop, Edge.isLoop_iff]
  obtain ⟨edge, bend⟩ := bent
  unfold Route.of
  dsimp only at h_drawn h_isLoop ⊢
  -- the place is found for the drawn edge, and a loop is not asked for a second end
  rw [h_drawn, positionOf_eq_ok_iff.2 h, h_isLoop]
  rfl

end Route

section Exact

variable {α : Type} [Field α] [LinearOrder α] [Scalar α]

/-! ### The circles of loops -/

omit [LinearOrder α] [Scalar α] in
/-- A loop is displaced by twice the radius of its circle. -/
theorem bendDisplacement_loop (bend : Nat) (bendiness : α) :
    bendDisplacement bend bendiness true = bendiness * (bend + 1) * 2 := by
  simp [bendDisplacement, nat]

/-- The circle through a point around a centre. -/
def Circle.around (center p : Point α) : Circle α :=
  ⟨center, center.distance p⟩

/-- A loop at a vertex of a ring is drawn with a circle outside the ring: the radius is that of the
bend, the circle passes through the vertex with the anchor opposite, and of the disc of the ring it
has the vertex only. -/
structure Route.GrowsFrom (bendiness : α) (center vertex : Point α) (r : Route α)
    (circle : Circle α) : Prop where
  stroke : r.stroke = .loop circle
  radius : circle.radius = bendiness * (r.bend + 1)
  through : circle.Meets vertex
  /-- The anchor lies opposite the vertex. -/
  opposite : circle.Meets r.anchor ∧ vertex.midpoint r.anchor = circle.center
  outside : center.distance circle.center = center.distance vertex + circle.radius
  touches : ∀ q, (Circle.around center vertex).Inside q ∧ circle.Inside q ↔ q = vertex

/-- A circle lies in another one and meets it in one point only. -/
structure Circle.NestsIn (p : Point α) (inner outer : Circle α) : Prop where
  centers : inner.center.distance outer.center = outer.radius - inner.radius
  inside : ∀ q, inner.Inside q → outer.Inside q
  meets : ∀ q, inner.Meets q ∧ outer.Meets q ↔ q = p

variable [IsStrictOrderedRing α] [ExactLength α] {center vertex : Point α} {bendiness : α}
  (h_far : epsilon < center.distance vertex)
include h_far

/-- Outwards is a direction. -/
theorem length_outward : (outward center vertex).length = 1 := by
  -- the vertex is further from the centre than the tolerance, so there is a direction to it
  have h_direction : (vertex - center).direction? = some (vertex - center).unit :=
    Point.direction?_eq_unit h_far
  rw [outward, h_direction]
  exact Point.length_of_direction? h_direction

omit [ExactLength α] in
/-- The vertex sees the centre in the direction that is not outwards. -/
theorem vertex_add_outward :
    vertex + (outward center vertex).scale (-center.distance vertex) = center := by
  have h_direction : (vertex - center).direction? = some (vertex - center).unit :=
    Point.direction?_eq_unit h_far
  have h_pos : 0 < (vertex - center).length := epsilon_pos.trans h_far
  -- the direction is the way from the centre divided by its length, and going back that length
  -- leads to the centre
  rw [outward, h_direction]
  change (⟨vertex.x + (vertex.x - center.x) / (vertex - center).length * -(vertex - center).length,
    vertex.y + (vertex.y - center.y) / (vertex - center).length * -(vertex - center).length⟩ :
      Point α) = center
  rw [mul_neg, mul_neg, div_mul_cancel₀ _ h_pos.ne', div_mul_cancel₀ _ h_pos.ne',
    ← sub_eq_add_neg, ← sub_eq_add_neg, sub_sub_cancel, sub_sub_cancel]

/-- **The ring** touches the vertex from inwards. -/
theorem Circle.around_eq_touching :
    Circle.around center vertex =
      Circle.touching vertex (outward center vertex) (-center.distance vertex) := by
  -- the radius is the length of the way that the ring lies behind the vertex
  rw [touching, vertex_add_outward h_far, abs_neg, abs_of_nonneg (Point.length_nonneg _), around]

/-- **A loop** touches the vertex from outwards. -/
theorem Route.stroke_ofLoop (bendiness : α) (edge : Edge) (bend : Bend) :
    (Route.ofLoop center vertex bendiness edge bend).stroke =
      .loop (Circle.touching vertex (outward center vertex) (bendiness * (bend.index + 1))) := by
  -- the diameter of a loop leads from the vertex along the direction outwards
  rw [← Circle.onDiameter_along (length_outward h_far), ← bendDisplacement_loop]
  rfl

section Circles

variable (h : 0 < bendiness)
include h

/-- **One loop** grows out of the ring. -/
theorem Route.growsFrom_ofLoop (edge : Edge) (bend : Bend) :
    ∃ circle, (Route.ofLoop center vertex bendiness edge bend).GrowsFrom bendiness center vertex
      circle := by
  have h_unit : (outward center vertex).length = 1 := length_outward h_far
  have h_ring : 0 < center.distance vertex := epsilon_pos.trans h_far
  have h_radius : 0 < bendiness * (bend.index + 1) := by positivity
  -- the anchor is where the displacement leads, which is the whole diameter
  have h_anchor : (Route.ofLoop center vertex bendiness edge bend).anchor =
      vertex + (outward center vertex).scale (bendiness * (bend.index + 1) * 2) := by
    rw [← bendDisplacement_loop]
    rfl
  refine ⟨_, Route.stroke_ofLoop h_far bendiness edge bend, ?radius, ?through, ?opposite,
    ?outside, ?touches⟩
  case radius => exact abs_of_pos h_radius
  case through => exact Circle.meets_touching h_unit _
  case opposite =>
    rw [h_anchor]
    exact ⟨Circle.meets_touching_opposite h_unit _,
      congrArg Circle.center (Circle.onDiameter_along h_unit _)⟩
  case outside =>
    -- both centres are on one line through the vertex, the ring to one side and the loop to the
    -- other
    have h_centers := Point.distance_along h_unit (p := vertex) (-center.distance vertex)
      (bendiness * (bend.index + 1))
    rw [vertex_add_outward h_far, sub_neg_eq_add, abs_of_pos (by positivity)] at h_centers
    change center.distance (vertex + _) = _ + |_|
    rw [h_centers, abs_of_pos h_radius, add_comm]
  case touches =>
    intro q
    -- two circles that touch a point from different sides have only that point
    rw [Circle.around_eq_touching h_far]
    constructor
    · rintro ⟨h_in, h_in'⟩
      exact Circle.eq_of_inside_touching h_unit (neg_neg_of_pos h_ring) h_radius h_in h_in'
    · rintro rfl
      exact ⟨(Circle.meets_touching h_unit _).inside, (Circle.meets_touching h_unit _).inside⟩

/-- **Two loops** at a vertex lie in each other. -/
theorem Route.nestsIn_ofLoop {edge edge' : Edge} {bend bend' : Bend}
    (h_less : bend.index < bend'.index) {inner outer : Circle α}
    (h_inner : (Route.ofLoop center vertex bendiness edge bend).stroke = .loop inner)
    (h_outer : (Route.ofLoop center vertex bendiness edge' bend').stroke = .loop outer) :
    inner.NestsIn vertex outer := by
  have h_unit : (outward center vertex).length = 1 := length_outward h_far
  -- both circles touch the vertex from the same side, and the outer one has the greater radius
  have h_radius : 0 < bendiness * (bend.index + 1) := by positivity
  have h_grows : bendiness * (bend.index + 1) < bendiness * (bend'.index + 1) := by gcongr
  rw [Route.stroke_ofLoop h_far] at h_inner h_outer
  cases h_inner
  cases h_outer
  constructor
  case centers =>
    change (vertex + _).distance (vertex + _) = |_| - |_|
    rw [Point.distance_along h_unit, abs_of_pos (sub_pos.2 h_grows), abs_of_pos h_radius,
      abs_of_pos (h_radius.trans h_grows)]
  case inside =>
    exact fun q h_in => Circle.inside_touching_mono h_unit h_radius h_grows.le h_in
  case meets =>
    intro q
    constructor
    · rintro ⟨h_meets, h_meets'⟩
      exact Circle.eq_of_meets_touching h_unit h_grows.ne h_meets h_meets'
    · rintro rfl
      exact ⟨Circle.meets_touching h_unit _, Circle.meets_touching h_unit _⟩

end Circles

end Exact

/-! ### Whole layouts -/

section Layouts

variable {α : Type} [Add α] [Sub α] [Mul α] [Div α] [Neg α] [NatCast α] [LT α] [DecidableLT α]
  [BEq α] [Scalar α] {net : Network} {settings : Settings α} {width height : α} {layout : Layout α}
  {v : PlacedVertex α}

/-- A vertex of a layout is in its slot. -/
theorem Network.position_of_mem_layout (h : net.layout settings width height = .ok layout)
    (h_v : v ∈ layout.vertices) :
    v.index < net.vertices.length ∧
      v.position = slotPosition net.vertices.length settings.ringRadius layout.center v.index := by
  rw [Network.center_of_layout h]
  -- the vertices of a layout are those of the network in their slots
  rw [net.layout_eq] at h
  obtain ⟨routes, -, rfl⟩ := map_eq_ok_iff.1 h
  obtain ⟨i, h_i⟩ := List.mem_iff_getElem?.1 h_v
  dsimp only at h_i
  rw [getElem?_placedVertices] at h_i
  obtain ⟨w, h_w, rfl⟩ := Option.map_eq_some_iff.1 h_i
  exact ⟨(List.getElem?_eq_some_iff.1 h_w).1, rfl⟩

/-- The place of a vertex is that of its index. -/
theorem Network.getElem?_places_of_layout (h : net.layout settings width height = .ok layout)
    (h_v : v ∈ layout.vertices) : layout.places[v.index]? = some v.position := by
  obtain ⟨h_slot, h_position⟩ := Network.position_of_mem_layout h h_v
  rw [Network.places_of_layout h, ← positionOf_eq_ok_iff, positionOf_slotPositions h_slot,
    h_position, Network.center_of_layout h]

/-- The edges that are kept have routes in a layout. -/
theorem Network.exists_route_of_mem_keptEdges
    (h : net.layout settings width height = .ok layout) {bent : Edge × Bend}
    (h_bent : bent ∈ keptEdges net.flags.simple net.edges) :
    ∃ r ∈ layout.edges,
      Route.of layout.places layout.center settings.bendiness bent = .ok r := by
  have h_routes := Network.mapM_of_layout h
  -- the routes are made of the kept edges one by one, so each of these has one
  obtain ⟨r, h_r⟩ := exists_ok_of_mapM h_routes bent h_bent
  have h_mem : (bent, r) ∈ (keptEdges net.flags.simple net.edges).zip layout.edges :=
    (mem_zip_iff_of_mapM h_routes).2 ⟨h_bent, h_r⟩
  exact ⟨r, (List.of_mem_zip h_mem).2, h_r⟩

end Layouts

/-! ### The law of loops -/

section Law

variable {α : Type} [Field α] [LinearOrder α] [Scalar α]

/-- How the loops at a vertex are routed: each of them has a route, is drawn with a circle that
grows out of the ring, and lies in those with greater bends. -/
structure LoopsNest (bendiness : α) (center vertex : Point α) (slot : Nat)
    (bents : List (Edge × Bend)) (routed : Route α → Prop) : Prop where
  exist : ∀ bent ∈ bents, bent.1 = ⟨slot, slot⟩ →
    ∃ r, routed r ∧ r.edge = bent.1 ∧ r.bend = bent.2.index
  grow : ∀ r, routed r → r.edge = ⟨slot, slot⟩ →
    ∃ circle, r.GrowsFrom bendiness center vertex circle
  nest : ∀ r s, routed r → routed s → r.edge = ⟨slot, slot⟩ → s.edge = ⟨slot, slot⟩ →
    r.bend < s.bend → ∀ inner outer, r.stroke = .loop inner → s.stroke = .loop outer →
      inner.NestsIn vertex outer

variable [IsStrictOrderedRing α] [ExactLength α]

theorem loopsNest_routedAmong {places : Array (Point α)} {center vertex : Point α} {slot : Nat}
    {bendiness : α} (h : 0 < bendiness) (h_place : places[slot]? = some vertex)
    (h_far : epsilon < center.distance vertex) (edges : List Edge) :
    LoopsNest bendiness center vertex slot (edges.zip (bends edges))
      (RoutedAmong places center bendiness edges) := by
  have h_of : ∀ bent ∈ edges.zip (bends edges), bent.1 = ⟨slot, slot⟩ →
      Route.of places center bendiness bent =
        .ok (Route.ofLoop center vertex bendiness bent.1 bent.2) :=
    fun bent h_bent h_loop => Route.of_loop h_place center bendiness h_bent h_loop
  -- a route knows the edge it is for, so a route for a loop is the one that was made of it
  have h_loops : ∀ r, RoutedAmong places center bendiness edges r → r.edge = ⟨slot, slot⟩ →
      ∃ bend, r = Route.ofLoop center vertex bendiness ⟨slot, slot⟩ bend := by
    rintro r ⟨bent, h_bent, h_r⟩ h_edge
    obtain ⟨-, -, -, -, h_same, -⟩ := Route.exists_ends h_r
    have h_loop : bent.1 = ⟨slot, slot⟩ := h_same.symm.trans h_edge
    rw [h_of bent h_bent h_loop, h_loop] at h_r
    exact ⟨bent.2, (Except.ok.inj h_r).symm⟩
  constructor
  case exist =>
    intro bent h_bent h_loop
    exact ⟨_, ⟨bent, h_bent, h_of bent h_bent h_loop⟩, rfl, rfl⟩
  case grow =>
    intro r h_r h_edge
    obtain ⟨bend, rfl⟩ := h_loops r h_r h_edge
    exact Route.growsFrom_ofLoop h_far h _ bend
  case nest =>
    intro r s h_r h_s h_edge h_edge' h_less inner outer h_inner h_outer
    obtain ⟨bend, rfl⟩ := h_loops r h_r h_edge
    obtain ⟨bend', rfl⟩ := h_loops s h_s h_edge'
    exact Route.nestsIn_ofLoop h_far h h_less h_inner h_outer

theorem loopsNest_layout {net : Network} {settings : Settings α} {width height : α}
    {layout : Layout α} (h : net.layout settings width height = .ok layout)
    (h_bendiness : 0 < settings.bendiness) {v : PlacedVertex α} (h_v : v ∈ layout.vertices)
    (h_far : epsilon < layout.center.distance v.position) :
    LoopsNest settings.bendiness layout.center v.position v.index
      (keptEdges net.flags.simple net.edges) (· ∈ layout.edges) := by
  -- a layout routes the kept edges among the places of its own slots
  have h_place := Network.getElem?_places_of_layout h h_v
  have h_among := loopsNest_routedAmong h_bendiness h_place h_far net.edges
  have h_routed : ∀ r ∈ layout.edges,
      RoutedAmong layout.places layout.center settings.bendiness net.edges r :=
    fun r h_r => Network.exists_of_mem_layout h h_r
  refine ⟨?exist, fun r h_r => h_among.grow r (h_routed r h_r), fun r s h_r h_s =>
    h_among.nest r s (h_routed r h_r) (h_routed s h_s)⟩
  intro bent h_bent h_loop
  obtain ⟨r, h_r, h_route⟩ := Network.exists_route_of_mem_keptEdges h h_bent
  -- what is kept has its place among all edges, where its bend was counted
  rw [Route.of_loop h_place _ _ (List.mem_of_mem_filter h_bent) h_loop] at h_route
  cases h_route
  exact ⟨_, h_r, rfl, rfl⟩

/-- **Loops nest outside the ring**, in exact numbers and for a positive bendiness. The bends of the
loops at a vertex are 0, 1, 2, … in order. Let the vertex have a place that is not in the centre of
the ring. Then each of its loops is routed, and drawn with a circle whose radius is the bendiness
times one more than the bend. The circle passes through the vertex and has the anchor opposite; its
centre is further from that of the ring than the vertex is, and that by its radius, so of the disc
of the ring it has the vertex only. Of two loops the circle with the lesser bend lies in the other,
the centres apart by the difference of the radii, and they meet in the vertex only. In particular
this is so in layouts. -/
theorem loops_nest :
    (∀ (edges : List Edge) (slot : Nat), (parallels edges (slot, slot)).map (·.2.index) =
      List.range (edges.count ⟨slot, slot⟩)) ∧
    (∀ (places : Array (Point α)) (center vertex : Point α) (bendiness : α) (edges : List Edge)
      (slot : Nat), 0 < bendiness → places[slot]? = some vertex →
        epsilon < center.distance vertex →
          LoopsNest bendiness center vertex slot (edges.zip (bends edges))
            (RoutedAmong places center bendiness edges)) ∧
    ∀ (net : Network) (settings : Settings α) (width height : α) (layout : Layout α),
      net.layout settings width height = .ok layout → 0 < settings.bendiness →
        ∀ v ∈ layout.vertices, epsilon < layout.center.distance v.position →
          LoopsNest settings.bendiness layout.center v.position v.index
            (keptEdges net.flags.simple net.edges) (· ∈ layout.edges) := by
  refine ⟨map_index_loops, ?_, ?_⟩
  · intro places center vertex bendiness edges slot h h_place h_far
    exact loopsNest_routedAmong h h_place h_far edges
  · intro net settings width height layout h h_bendiness v h_v h_far
    exact loopsNest_layout h h_bendiness h_v h_far

end Law

/-- In real numbers the places of slots are on the ring. -/
theorem distance_center_slotPosition (slots i : Nat) (radius : ℝ) (center : Point ℝ) :
    center.distance (slotPosition slots radius center i) = |radius| := by
  have h_unit : (Point.onUnitCircle (slotAngle slots i : ℝ)).length = 1 := by
    change √(Real.cos _ * Real.cos _ + Real.sin _ * Real.sin _) = 1
    rw [← sq, ← sq, Real.cos_sq_add_sin_sq, Real.sqrt_one]
  -- the place of a slot is as far from the centre as the radius leads
  have h_along := Point.distance_along h_unit (p := center) 0 radius
  rwa [Point.add_scale_zero, sub_zero] at h_along

/-- So the law is about all vertices of a layout unless the ring is next to nothing. -/
theorem Network.distance_of_mem_layout {net : Network} {settings : Settings ℝ} {width height : ℝ}
    {layout : Layout ℝ} (h : net.layout settings width height = .ok layout) {v : PlacedVertex ℝ}
    (h_v : v ∈ layout.vertices) : layout.center.distance v.position = |settings.ringRadius| := by
  rw [(Network.position_of_mem_layout h h_v).2, distance_center_slotPosition]

/-- A vertex with two loops. -/
private def withTwoLoops : Network where
  flags := {}
  vertices := [⟨"a", true⟩]
  edges := [⟨0, 0⟩, ⟨0, 0⟩]
  within := by simp [Edge.Within]

private theorem zip_bends_withTwoLoops :
    withTwoLoops.edges.zip (bends withTwoLoops.edges) =
      [(⟨0, 0⟩, ⟨0, ⟨0, 0⟩, false⟩), (⟨0, 0⟩, ⟨1, ⟨0, 0⟩, false⟩)] := by
  rw [bends_eq]
  decide

private theorem keptEdges_withTwoLoops :
    keptEdges withTwoLoops.flags.simple withTwoLoops.edges =
      [(⟨0, 0⟩, ⟨0, ⟨0, 0⟩, false⟩), (⟨0, 0⟩, ⟨1, ⟨0, 0⟩, false⟩)] :=
  (keptEdges_plain _).trans zip_bends_withTwoLoops

/-- Both loops are routed around a vertex of a ring of the standard size. -/
private theorem exists_layout_withTwoLoops :
    ∃ (layout : Layout ℝ) (v : PlacedVertex ℝ),
      withTwoLoops.layout .standard 300 300 = .ok layout ∧ v ∈ layout.vertices ∧ v.index = 0 := by
  have h_loops : ∀ bent ∈ keptEdges withTwoLoops.flags.simple withTwoLoops.edges,
      bent.1.isLoop = true := by
    rw [keptEdges_withTwoLoops]
    decide
  obtain ⟨layout, h_layout⟩ :
      ∃ layout, withTwoLoops.layout .standard (300 : ℝ) 300 = .ok layout :=
    Network.exists_layout fun bent h_bent => Or.inl (h_loops bent h_bent)
  have h_vertices := h_layout
  rw [Network.layout_eq] at h_vertices
  obtain ⟨routes, -, rfl⟩ := map_eq_ok_iff.1 h_vertices
  exact ⟨_, _, h_layout, List.mem_cons_self, rfl⟩

/-- The second loop has twice the radius of the first, which lies in it. -/
theorem loops_nest_twice :
    ((0 : ℝ) < 10 ∧ epsilon < (⟨0, 0⟩ : Point ℝ).distance ⟨2, 0⟩ ∧
      ∃ (r : Route ℝ) (circle : Circle ℝ),
        RoutedAmong #[⟨2, 0⟩] ⟨0, 0⟩ 10 withTwoLoops.edges r ∧ r.bend = 1 ∧
        r.stroke = .loop circle ∧ circle.radius = 20 ∧
        (⟨0, 0⟩ : Point ℝ).distance circle.center = 22) ∧
    ∃ (layout : Layout ℝ) (v : PlacedVertex ℝ) (inner outer : Circle ℝ),
      withTwoLoops.layout .standard 300 300 = .ok layout ∧ v ∈ layout.vertices ∧
      epsilon < layout.center.distance v.position ∧ inner.radius = 10 ∧ outer.radius = 20 ∧
      inner.NestsIn v.position outer := by
  obtain ⟨-, h_among, h_layouts⟩ := loops_nest (α := ℝ)
  constructor
  · have h_distance : (⟨0, 0⟩ : Point ℝ).distance ⟨2, 0⟩ = 2 := by
      rw [Point.distance_of_level (a := (⟨0, 0⟩ : Point ℝ)) (b := ⟨2, 0⟩) rfl]
      norm_num
    have h_far : epsilon < (⟨0, 0⟩ : Point ℝ).distance ⟨2, 0⟩ := by
      rw [h_distance]
      norm_num [epsilon]
    have h_nest := h_among #[⟨2, 0⟩] ⟨0, 0⟩ ⟨2, 0⟩ 10 withTwoLoops.edges 0 (by norm_num) rfl h_far
    obtain ⟨r, h_r, h_edge, h_bend⟩ := h_nest.exist (⟨0, 0⟩, ⟨1, ⟨0, 0⟩, false⟩)
      (by rw [zip_bends_withTwoLoops]; simp) rfl
    -- the second loop has bend 1, and so twice the radius of the first
    obtain ⟨circle, h_circle⟩ := h_nest.grow r h_r h_edge
    have h_radius : circle.radius = 20 := by
      rw [h_circle.radius, h_bend]
      norm_num
    refine ⟨by norm_num, h_far, r, circle, h_r, h_bend, h_circle.stroke, h_radius, ?_⟩
    rw [h_circle.outside, h_distance, h_radius]
    norm_num
  · obtain ⟨layout, v, h_layout, h_v, h_index⟩ := exists_layout_withTwoLoops
    -- every vertex is on the ring, whose radius is far above the tolerance
    have h_far : epsilon < layout.center.distance v.position := by
      rw [Network.distance_of_mem_layout h_layout h_v]
      norm_num [Settings.standard, nat, epsilon]
    have h_nest := h_layouts withTwoLoops .standard 300 300 layout h_layout
      (by norm_num [Settings.standard, nat]) v h_v h_far
    rw [keptEdges_withTwoLoops, h_index] at h_nest
    -- both loops are kept, and the first has the lesser bend
    obtain ⟨r, h_r, h_edge, h_bend⟩ := h_nest.exist _ List.mem_cons_self rfl
    obtain ⟨s, h_s, h_edge', h_bend'⟩ := h_nest.exist _ (List.mem_cons_of_mem _
      List.mem_cons_self) rfl
    obtain ⟨inner, h_inner⟩ := h_nest.grow r h_r h_edge
    obtain ⟨outer, h_outer⟩ := h_nest.grow s h_s h_edge'
    refine ⟨layout, v, inner, outer, h_layout, h_v, h_far, ?_, ?_, h_nest.nest r s h_r h_s h_edge
      h_edge' (by rw [h_bend, h_bend']; exact Nat.zero_lt_one) inner outer h_inner.stroke
      h_outer.stroke⟩
    · rw [h_inner.radius, h_bend]
      norm_num [Settings.standard, nat]
    · rw [h_outer.radius, h_bend']
      norm_num [Settings.standard, nat]

end RingDiagram
