import RingDiagram.Proofs.Layout.Arcs
import RingDiagram.Proofs.Layout.Crowding
import RingDiagram.Proofs.Layout.FirstEdges

/-!
# Headings

Arrowheads point at the targets of their edges. All edges of a pair are drawn in the direction of
the first one, so an edge that runs against it is turned around once when its bend is given, and its
heading is turned around again when it is routed. Neither step knows of the other.

* The bend of an edge says in the same breath in which direction the edge is drawn and whether it is
  reversed, whatever came before it (`drawn_cases`).
* The heading of a stroke is the way from where it starts to where it finishes, or the way back if
  the edge is reversed (`headingOf_false`, `headingOf_true`).
* So in either case it is the way from the place of the source to the place of the target
  (`Route.heads`), and edges that run against each other have opposite headings.
-/

namespace RingDiagram

open Scalar

/-! ### The direction of a drawn edge -/

/-- An edge of a sequence is drawn as it is, or it is drawn the other way around and reversed. -/
theorem drawn_cases {edges : List Edge} {bent : Edge × Bend} (h : bent ∈ edges.zip (bends edges)) :
    bent.2.drawn = bent.1 ∧ bent.2.reversed = false ∨
      bent.2.drawn = bent.1.reverse ∧ bent.2.reversed = true := by
  obtain ⟨earlier, h_after⟩ := exists_earlier_of_mem_zip_bends h
  rw [h_after]
  -- the bend is given by the first edge of the pair, which runs as this one does or against it
  by_cases h_same : firstMate bent.1 earlier = bent.1
  · -- the first edge of the pair runs as this one does, or there is none
    refine Or.inl ⟨h_same, ?_⟩
    simp [Bend.after, h_same]
  · have h_reverse := (firstMate_cases bent.1 earlier).resolve_left h_same
    refine Or.inr ⟨h_reverse, ?_⟩
    simp [Bend.after, h_same]

section Route

variable {α : Type} [Add α] [Sub α] [Mul α] [Div α] [Neg α] [NatCast α] [LT α] [DecidableLT α]
  [BEq α] [Scalar α] {positions : Array (Point α)} {center : Point α} {bendiness : α}
  {bent : Edge × Bend} {r : Route α}

/-- **A route** is about its edge. It goes between the places of the ends of the drawn edge, and
unless it is a loop its heading goes with them. -/
theorem Route.exists_ends (h : Route.of positions center bendiness bent = .ok r) :
    ∃ start finish, positions[bent.2.drawn.source]? = some start ∧
      positions[bent.2.drawn.target]? = some finish ∧ r.edge = bent.1 ∧
      (bent.1.isLoop = false → r.heading = headingOf start finish bent.2.reversed) := by
  obtain ⟨edge, bend⟩ := bent
  obtain ⟨start, h_start, h⟩ := bind_eq_ok_iff.1 h
  obtain ⟨finish, h_finish, h⟩ := bind_eq_ok_iff.1 h
  refine ⟨start, finish, positionOf_eq_ok_iff.1 h_start, positionOf_eq_ok_iff.1 h_finish, ?_⟩
  -- the stroke of a loop has another heading, and of the others the heading is that of the drawn
  -- edge
  split at h
  · next h_loop =>
    cases h
    refine ⟨rfl, fun h_line => ?_⟩
    rw [h_line] at h_loop
    cases h_loop
  · unfold Route.between at h
    dsimp only at h
    split at h
    · cases h
    · cases h
      exact ⟨rfl, fun _ => rfl⟩

/-- The ends of the edge have the two places, in one order or the other. -/
theorem Route.exists_places {edges : List Edge} (h_bent : bent ∈ edges.zip (bends edges))
    (h : Route.of positions center bendiness bent = .ok r) :
    ∃ source target, positions[bent.1.source]? = some source ∧
      positions[bent.1.target]? = some target := by
  obtain ⟨start, finish, h_start, h_finish, -⟩ := Route.exists_ends h
  -- the drawn edge has the same ends as the edge, maybe in the other order
  rcases drawn_cases h_bent with ⟨h_drawn, -⟩ | ⟨h_drawn, -⟩
  · rw [h_drawn] at h_start h_finish
    exact ⟨start, finish, h_start, h_finish⟩
  · rw [h_drawn] at h_start h_finish
    exact ⟨finish, start, h_finish, h_start⟩

end Route

/-! ### Headings in exact numbers -/

section Exact

variable {α : Type} [Field α] [LinearOrder α] [Scalar α]

/-- A heading from one place to another: the way from the first to the second over its length. It
has length one and leads towards the second. -/
structure Heads (source target heading : Point α) : Prop where
  along : heading = (target - source).unit
  length : heading.length = 1
  forward : 0 < heading.dot (target - source)

variable {start finish source target : Point α}

-- the places are apart, so there is a direction
theorem headingOf_false (h : epsilon < start.distance finish) :
    headingOf start finish false = (finish - start).unit := by
  have h_direction : (finish - start).direction? = some (finish - start).unit :=
    Point.direction?_eq_unit h
  unfold headingOf
  rw [h_direction]
  rfl

variable [IsStrictOrderedRing α] [ExactLength α]

theorem headingOf_true (h : epsilon < start.distance finish) :
    headingOf start finish true = (start - finish).unit := by
  have h_direction : (finish - start).direction? = some (finish - start).unit :=
    Point.direction?_eq_unit h
  -- turning the direction around is the direction between the places in the other order
  calc headingOf start finish true = (finish - start).unit.scale (-nat 1) := by
        unfold headingOf
        rw [h_direction]
        rfl
    _ = (finish - start).unit.scale (-1) := by rw [nat, Nat.cast_one]
    _ = (start - finish).unit := (Point.unit_sub_comm start finish).symm

/-- Places that are apart have a heading from one to the other. -/
-- a unit vector along a vector has its length as product with it
theorem heads_unit (h : epsilon < source.distance target) :
    Heads source target (target - source).unit := by
  constructor
  case along => rfl
  case length => exact Point.length_of_direction? (Point.direction?_eq_unit h)
  case forward =>
    rw [Point.dot_unit]
    exact epsilon_pos.trans h

/-- Headings from one place to another and back are opposite. -/
theorem Heads.opposite {there back : Point α} (h : Heads source target there)
    (h_back : Heads target source back) : back = there.scale (-1) := by
  rw [h.along, h_back.along]
  exact Point.unit_sub_comm source target

/-! ### Headings of routes -/

section Routes

variable {positions : Array (Point α)} {center : Point α} {bendiness : α} {edges : List Edge}
  {bent other : Edge × Bend} {r s : Route α}

/-- **One edge.** However an edge is drawn, its heading goes from the place of its source to the
place of its target. -/
theorem Route.heads (h_bent : bent ∈ edges.zip (bends edges))
    (h : Route.of positions center bendiness bent = .ok r) (h_loop : bent.1.isLoop = false)
    (h_source : positions[bent.1.source]? = some source)
    (h_target : positions[bent.1.target]? = some target)
    (h_far : epsilon < source.distance target) : Heads source target r.heading := by
  obtain ⟨start, finish, h_start, h_finish, -, h_heading⟩ := Route.exists_ends h
  rw [h_heading h_loop]
  rcases drawn_cases h_bent with ⟨h_drawn, h_reversed⟩ | ⟨h_drawn, h_reversed⟩
  · rw [h_drawn] at h_start h_finish
    obtain rfl : start = source := Option.some.inj (h_start.symm.trans h_source)
    obtain rfl : finish = target := Option.some.inj (h_finish.symm.trans h_target)
    rw [h_reversed, headingOf_false h_far]
    exact heads_unit h_far
  · -- the stroke starts at the target, and the heading leads back to where it starts
    rw [h_drawn] at h_start h_finish
    obtain rfl : start = target := Option.some.inj (h_start.symm.trans h_target)
    obtain rfl : finish = source := Option.some.inj (h_finish.symm.trans h_source)
    have h_back : epsilon < start.distance finish := by
      rw [Point.distance_comm]
      exact h_far
    rw [h_reversed, headingOf_true h_back]
    exact heads_unit h_far

/-- **Two edges** that run against each other have opposite headings, whichever of them came first.
-/
theorem Route.opposite (h_bent : bent ∈ edges.zip (bends edges))
    (h : Route.of positions center bendiness bent = .ok r) (h_loop : bent.1.isLoop = false)
    (h_source : positions[bent.1.source]? = some source)
    (h_target : positions[bent.1.target]? = some target)
    (h_far : epsilon < source.distance target) (h_other : other ∈ edges.zip (bends edges))
    (h_back : other.1 = bent.1.reverse)
    (h_route : Route.of positions center bendiness other = .ok s) :
    s.heading = r.heading.scale (-1) := by
  have h_there : Heads source target r.heading :=
    Route.heads h_bent h h_loop h_source h_target h_far
  -- what is the source of the one edge is the target of the other
  have h_other_source : positions[other.1.source]? = some target := by
    rw [h_back]
    exact h_target
  have h_other_target : positions[other.1.target]? = some source := by
    rw [h_back]
    exact h_source
  have h_other_loop : other.1.isLoop = false := by
    rw [h_back, Edge.isLoop_reverse]
    exact h_loop
  have h_other_far : epsilon < target.distance source := by
    rw [Point.distance_comm]
    exact h_far
  exact h_there.opposite
    (Route.heads h_other h_route h_other_loop h_other_source h_other_target h_other_far)

end Routes

end Exact

/-! ### Whole layouts -/

section Layouts

variable {α : Type} [Add α] [Sub α] [Mul α] [Div α] [Neg α] [NatCast α] [LT α] [DecidableLT α]
  [BEq α] [Scalar α] {net : Network} {settings : Settings α} {width height : α} {layout : Layout α}
  {r : Route α}

/-- The places of the vertices of a layout. -/
def Layout.places (layout : Layout α) : Array (Point α) :=
  (layout.vertices.map PlacedVertex.position).toArray

/-- The vertices of a network are placed where its slots are. -/
theorem Network.places_of_layout (h : net.layout settings width height = .ok layout) :
    layout.places = (slotPositions net.vertices.length settings.ringRadius
      (net.ringCenter settings width height)).toArray := by
  rw [Layout.places, Network.positions_of_layout h, Network.center_of_layout h]

/-- The routes of a layout are those of the kept edges among the places of its vertices. -/
theorem Network.mapM_of_layout (h : net.layout settings width height = .ok layout) :
    (keptEdges net.flags.simple net.edges).mapM
      (Route.of layout.places layout.center settings.bendiness) = .ok layout.edges := by
  -- a layout has the routes that were found among the places of its slots
  rw [Network.places_of_layout h]
  unfold Network.layout at h
  obtain ⟨routes, h_routes, h⟩ := bind_eq_ok_iff.1 h
  cases h
  exact h_routes

/-- A route of a layout is that of an edge of the network among the places of its vertices. -/
theorem Network.exists_of_mem_layout (h : net.layout settings width height = .ok layout)
    (h_r : r ∈ layout.edges) :
    ∃ bent ∈ net.edges.zip (bends net.edges),
      Route.of layout.places layout.center settings.bendiness bent = .ok r := by
  obtain ⟨bent, h_bent, h_route⟩ := exists_of_mem_mapM (Network.mapM_of_layout h) h_r
  exact ⟨bent, List.mem_of_mem_filter h_bent, h_route⟩

end Layouts

/-! ### The law of headings -/

section Law

variable {α : Type} [Field α] [LinearOrder α] [Scalar α]

/-- The route is that of an edge of a sequence, among vertices in the given places. -/
def RoutedAmong (places : Array (Point α)) (center : Point α) (bendiness : α) (edges : List Edge)
    (r : Route α) : Prop :=
  ∃ bent ∈ edges.zip (bends edges), Route.of places center bendiness bent = .ok r

/-- Routes among vertices in the given places, other than loops, go between places of vertices. If
these are apart, the heading of a route goes from the place of the source of its edge to the place
of the target, and edges that run against each other have opposite headings. -/
def Aimed (places : Array (Point α)) (routed : Route α → Prop) : Prop :=
  ∀ r, routed r → r.edge.isLoop = false →
    ∃ source target, places[r.edge.source]? = some source ∧ places[r.edge.target]? = some target ∧
      (epsilon < source.distance target →
        Heads source target r.heading ∧
        ∀ s, routed s → s.edge = r.edge.reverse → s.heading = r.heading.scale (-1))

theorem Aimed.mono {places : Array (Point α)} {routed routed' : Route α → Prop}
    -- fewer routes are asked for, so less is asked of them
    (h : Aimed places routed) (h_routed : ∀ r, routed' r → routed r) : Aimed places routed' := by
  intro r h_r h_loop
  obtain ⟨source, target, h_source, h_target, h_far⟩ := h r (h_routed r h_r) h_loop
  refine ⟨source, target, h_source, h_target, fun h_apart => ?_⟩
  obtain ⟨h_heads, h_back⟩ := h_far h_apart
  exact ⟨h_heads, fun s h_s => h_back s (h_routed s h_s)⟩

variable [IsStrictOrderedRing α] [ExactLength α]

theorem aimed_routedAmong (places : Array (Point α)) (center : Point α) (bendiness : α)
    (edges : List Edge) : Aimed places (RoutedAmong places center bendiness edges) := by
  -- a route tells which edge it is for
  have h_edge : ∀ bent r, Route.of places center bendiness bent = .ok r → r.edge = bent.1 := by
    intro bent r h
    obtain ⟨-, -, -, -, h_same, -⟩ := Route.exists_ends h
    exact h_same
  rintro r ⟨bent, h_bent, h_route⟩ h_loop
  rw [h_edge bent r h_route] at h_loop ⊢
  obtain ⟨source, target, h_source, h_target⟩ := Route.exists_places h_bent h_route
  refine ⟨source, target, h_source, h_target, fun h_far => ⟨?_, ?_⟩⟩
  · exact Route.heads h_bent h_route h_loop h_source h_target h_far
  · rintro s ⟨other, h_other, h_s⟩ h_back
    rw [h_edge other s h_s] at h_back
    exact Route.opposite h_bent h_route h_loop h_source h_target h_far h_other h_back h_s

/-- **Arrowheads point at the targets of their edges**, in exact numbers. The routes of any sequence
of edges, among vertices in any places, head for the targets of the edges as the model has them:
whatever its bend, and whether or not it is drawn the other way around, the heading of an edge
between two vertices is the vector from the place of its source to the place of its target over its
length, as long as the places are apart. In particular the routes of a layout do so. -/
theorem headings_exact :
    (∀ (places : Array (Point α)) (center : Point α) (bendiness : α) (edges : List Edge),
      Aimed places (RoutedAmong places center bendiness edges)) ∧
    ∀ (net : Network) (settings : Settings α) (width height : α) (layout : Layout α),
      net.layout settings width height = .ok layout →
        Aimed layout.places (· ∈ layout.edges) := by
  refine ⟨aimed_routedAmong, fun net settings width height layout h => ?_⟩
  have h_aimed := aimed_routedAmong layout.places layout.center settings.bendiness net.edges
  exact h_aimed.mono fun r h_r => Network.exists_of_mem_layout h h_r

end Law

/-- Vertices in different slots are apart if the ring has some size for each of them. So on such a
ring the law says what the headings are of all edges that are no loops. -/
theorem epsilon_lt_distance_of_slots {slots i j : Nat} {radius : ℝ} {center a b : Point ℝ}
    (h : i ≠ j) (h_radius : slots * epsilon < 4 * |radius|)
    (h_a : (slotPositions slots radius center).toArray[i]? = some a)
    (h_b : (slotPositions slots radius center).toArray[j]? = some b) :
    epsilon < a.distance b := by
  have h_slot : ∀ {k c}, (slotPositions slots radius center).toArray[k]? = some c →
      k < slots ∧ c = slotPosition slots radius center k := by
    intro k c h_c
    obtain ⟨h_k, -⟩ := Array.getElem?_eq_some_iff.1 h_c
    rw [List.size_toArray, length_slotPositions] at h_k
    -- a place that is found is that of a slot
    have h_position := positionOf_eq_ok_iff.1 (positionOf_slotPositions h_k radius center)
    exact ⟨h_k, Option.some.inj (h_c.symm.trans h_position)⟩
  obtain ⟨h_i, rfl⟩ := h_slot h_a
  obtain ⟨h_j, rfl⟩ := h_slot h_b
  -- two slots of a ring are apart by a part of its size
  have h_apart := h_radius.trans_le (le_distance_slotPosition h_i h_j h radius center)
  exact lt_of_mul_lt_mul_left h_apart (Nat.cast_nonneg slots)

/-! ### Two edges that run against each other -/

/-- The places of two vertices on one level. -/
private def sideBySide : Array (Point ℝ) := #[⟨0, 0⟩, ⟨1, 0⟩]

/-- A network of two edges that run against each other. -/
private def thereAndBack : Network where
  flags := { directed := true }
  vertices := [⟨"a", true⟩, ⟨"b", true⟩]
  edges := [⟨0, 1⟩, ⟨1, 0⟩]
  within := by simp [Edge.Within]

private theorem zip_bends_thereAndBack :
    thereAndBack.edges.zip (bends thereAndBack.edges) =
      [(⟨0, 1⟩, ⟨0, ⟨0, 1⟩, false⟩), (⟨1, 0⟩, ⟨1, ⟨0, 1⟩, true⟩)] := by
  rw [bends_eq]
  decide

/-- Both edges are routed on a ring of the standard size, the second one the other way around. -/
private theorem exists_layout_thereAndBack :
    ∃ (layout : Layout ℝ) (r s : Route ℝ),
      thereAndBack.layout .standard 300 300 = .ok layout ∧ layout.edges = [r, s] ∧
        r.edge = ⟨0, 1⟩ ∧ s.edge = ⟨1, 0⟩ ∧ s.reversed = true := by
  have h_kept : keptEdges thereAndBack.flags.simple thereAndBack.edges =
      [(⟨0, 1⟩, ⟨0, ⟨0, 1⟩, false⟩), (⟨1, 0⟩, ⟨1, ⟨0, 1⟩, true⟩)] :=
    (keptEdges_plain _).trans zip_bends_thereAndBack
  have h_roomy : Roomy thereAndBack.vertices.length (Settings.standard (α := ℝ)).ringRadius
      (Settings.standard (α := ℝ)).bendiness := roomy_standard (by decide)
  obtain ⟨layout, h_layout⟩ :
      -- on a ring of the standard size every kept edge has a route
      ∃ layout, thereAndBack.layout .standard (300 : ℝ) 300 = .ok layout :=
    Network.exists_layout fun bent h_bent => hasRoute_of_mem_keptEdges h_roomy h_bent
  have h_draws := Network.draws_of_layout h_layout
  rw [h_kept] at h_draws
  -- one route for each of the two edges
  obtain ⟨r, rest, h_r, h_rest, h_edges⟩ := List.forall₂_cons_left_iff.1 h_draws
  obtain ⟨s, rest', h_s, h_nil, rfl⟩ := List.forall₂_cons_left_iff.1 h_rest
  obtain rfl := List.forall₂_nil_left_iff.1 h_nil
  exact ⟨layout, r, s, h_layout, h_edges, h_r.edge, h_s.edge, h_s.reversed⟩

/-- Between places that are known the second edge is routed as well. -/
private theorem exists_routedAmong_sideBySide :
    ∃ r : Route ℝ, RoutedAmong sideBySide ⟨1, 0⟩ 10 thereAndBack.edges r ∧ r.edge = ⟨1, 0⟩ := by
  have h_mem : (⟨1, 0⟩, ⟨1, ⟨0, 1⟩, true⟩) ∈ thereAndBack.edges.zip (bends thereAndBack.edges) := by
    rw [zip_bends_thereAndBack]
    exact List.mem_cons_of_mem _ List.mem_cons_self
  have h_distance : (⟨0, 0⟩ : Point ℝ).distance ⟨1, 0⟩ = 1 := by
    rw [Point.distance_of_level (a := (⟨0, 0⟩ : Point ℝ)) (b := ⟨1, 0⟩) rfl]
    norm_num
  have h_first : sideBySide[(⟨0, 1⟩ : Edge).source]? = some ⟨0, 0⟩ := rfl
  have h_last : sideBySide[(⟨0, 1⟩ : Edge).target]? = some ⟨1, 0⟩ := rfl
  -- the two places and the bendiness are far from nothing, so the edge has a route
  obtain ⟨r, h_route, h_draws⟩ : ∃ r : Route ℝ,
      Route.of sideBySide ⟨1, 0⟩ 10 (⟨1, 0⟩, ⟨1, ⟨0, 1⟩, true⟩) = .ok r ∧
        Route.Draws 10 (⟨1, 0⟩, ⟨1, ⟨0, 1⟩, true⟩) r := by
    refine Route.exists_of_far rfl h_first h_last ?_ ?_ _
    · rw [h_distance]
      norm_num [epsilon]
    · rw [h_distance]
      norm_num [tolerance]
  exact ⟨r, ⟨_, h_mem, h_route⟩, h_draws.edge⟩

/-- The second of them is drawn in the direction of the first, and its arrowhead points the other
way. -/
theorem headings_exact_there_and_back :
    (epsilon < (⟨1, 0⟩ : Point ℝ).distance ⟨0, 0⟩ ∧
      ∃ r : Route ℝ, RoutedAmong sideBySide ⟨1, 0⟩ 10 thereAndBack.edges r ∧ r.edge = ⟨1, 0⟩ ∧
        r.heading = ⟨-1, 0⟩) ∧
    ∃ (layout : Layout ℝ) (r s : Route ℝ),
      thereAndBack.layout .standard 300 300 = .ok layout ∧ layout.edges = [r, s] ∧
        s.edge = r.edge.reverse ∧ s.reversed = true ∧ s.heading = r.heading.scale (-1) := by
  obtain ⟨h_among, h_layouts⟩ := headings_exact (α := ℝ)
  constructor
  · have h_length : ((⟨0, 0⟩ : Point ℝ) - ⟨1, 0⟩).length = 1 := by
      change (⟨1, 0⟩ : Point ℝ).distance ⟨0, 0⟩ = 1
      rw [Point.distance_of_level (a := (⟨1, 0⟩ : Point ℝ)) (b := ⟨0, 0⟩) rfl]
      norm_num
    have h_far : epsilon < (⟨1, 0⟩ : Point ℝ).distance ⟨0, 0⟩ := by
      change epsilon < ((⟨0, 0⟩ : Point ℝ) - ⟨1, 0⟩).length
      rw [h_length]
      norm_num [epsilon]
    -- among known places: the edge is routed, and it runs from the second place to the first
    obtain ⟨r, h_r, h_edge⟩ := exists_routedAmong_sideBySide
    obtain ⟨source, target, h_source, h_target, h_heads⟩ :=
      h_among sideBySide ⟨1, 0⟩ 10 thereAndBack.edges r h_r (by rw [h_edge]; rfl)
    rw [h_edge] at h_source h_target
    obtain rfl : ⟨1, 0⟩ = source := Option.some.inj h_source
    obtain rfl : ⟨0, 0⟩ = target := Option.some.inj h_target
    refine ⟨h_far, r, h_r, h_edge, ?_⟩
    rw [(h_heads h_far).1.along, Point.unit, h_length]
    norm_num
  · -- on a ring: both edges are routed, and their heads are told by the slots of the first one
    obtain ⟨layout, r, s, h_layout, h_edges, h_r, h_s, h_reversed⟩ := exists_layout_thereAndBack
    have h_mem : r ∈ layout.edges ∧ s ∈ layout.edges := by simp [h_edges]
    have h_back : s.edge = r.edge.reverse := by
      rw [h_r, h_s]
      rfl
    obtain ⟨source, target, h_source, h_target, h_heads⟩ :=
      h_layouts thereAndBack .standard 300 300 layout h_layout r h_mem.1 (by rw [h_r]; rfl)
    rw [Network.places_of_layout h_layout, h_r] at h_source h_target
    have h_room : (2 : ℕ) * (epsilon : ℝ) < 4 * |(Settings.standard (α := ℝ)).ringRadius| := by
      norm_num [Settings.standard, nat, epsilon]
    have h_far : epsilon < source.distance target :=
      epsilon_lt_distance_of_slots Nat.zero_ne_one h_room h_source h_target
    exact ⟨layout, r, s, h_layout, h_edges, h_back, h_reversed, (h_heads h_far).2 s h_mem.2 h_back⟩

end RingDiagram
