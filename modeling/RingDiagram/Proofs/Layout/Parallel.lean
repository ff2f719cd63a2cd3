import Mathlib.Tactic.LinearCombination
import RingDiagram.Proofs.Geometry.Exact
import RingDiagram.Proofs.Layout.Routing

/-!
# Parallel edges stay apart

The edges of a pair are drawn side by side in one frame, that of the first of them. In exact numbers
no two of them meet in their anchors, and this rests on two facts about different things.

* A bend moves an edge by a whole number of times the bendiness (`bendDisplacement_eq`), and
  different bends by different numbers (`bendSteps_injective`). The bends of a pair are 0, 1, 2, …
  (`map_index_parallels`), so the moves of its edges are known as a list (`displacements_eq`).
* Moves are made along the normal of the segment between the places that the first edge of the pair
  joins, in its direction. An edge that runs the other way is drawn in that direction all the same
  (`find?_of_mem_parallels`), so its move is measured along the same normal
  (`Route.movedBy_of_among`).
-/

namespace RingDiagram

open Scalar

/-! ### Steps -/

/-- By how many times the bendiness a bend moves an edge: 2, 4, 6, … for a loop, and 0, -2, 2, -4,
4, … for any other edge. -/
def bendSteps (isLoop : Bool) (bend : Nat) : Int :=
  if isLoop then 2 * (bend + 1) else if bend % 2 = 0 then bend else -(bend + 1)

/-- Different bends are different steps. -/
theorem bendSteps_injective (isLoop : Bool) : Function.Injective (bendSteps isLoop) := by
  intro i j h
  -- the moves of the first edges between two vertices, in their order
  unfold bendSteps at h
  cases isLoop with
  | true =>
    rw [if_pos rfl, if_pos rfl] at h
    omega
  | false =>
    rw [if_neg Bool.false_ne_true, if_neg Bool.false_ne_true] at h
    -- steps to one side are even bends, those to the other side odd ones
    split at h
    all_goals
      split at h
      all_goals omega

/-- Only the first bend of edges that are not loops is no step at all. -/
theorem bendSteps_eq_zero_iff {isLoop : Bool} {bend : Nat} :
    bendSteps isLoop bend = 0 ↔ isLoop = false ∧ bend = 0 := by
  unfold bendSteps
  cases isLoop with
  | true =>
    rw [if_pos rfl]
    refine iff_of_false (by omega) ?_
    simp
  | false =>
    rw [if_neg Bool.false_ne_true]
    split
    · simp
    · refine iff_of_false (by omega) ?_
      rintro ⟨-, rfl⟩
      contradiction

example : (List.range 5).map (bendSteps false) = [0, -2, 2, -4, 4] := by decide

/-! ### The edges of a pair -/

/-- The edges of a pair with their bends, in order. -/
def parallels (edges : List Edge) (p : Nat × Nat) : List (Edge × Bend) :=
  (edges.zip (bends edges)).filter (·.1.pair = p)

variable {edges : List Edge} {p : Nat × Nat} {bent : Edge × Bend}

theorem mem_parallels :
    bent ∈ parallels edges p ↔ bent ∈ edges.zip (bends edges) ∧ bent.1.pair = p := by
  rw [parallels, List.mem_filter, decide_eq_true_iff]

/-- The bends of a pair count up. -/
theorem map_index_parallels (edges : List Edge) (p : Nat × Nat) :
    (parallels edges p).map (·.2.index) = List.range (edges.countP (·.pair = p)) := by
  -- the other edges have no say in the bends of this pair, which are those of its edges alone
  have h_pair : ∀ f ∈ edges.filter (·.pair = p), f.pair = p := fun f h_f =>
    of_decide_eq_true (List.mem_filter.1 h_f).2
  have h_alone : (parallels edges p).map Prod.snd = bendsAfter [] (edges.filter (·.pair = p)) := by
    rw [parallels, bends_eq]
    exact zip_bendsAfter_filter p [] edges
  calc (parallels edges p).map (·.2.index)
      = ((parallels edges p).map Prod.snd).map Bend.index := by
        rw [List.map_map]
        rfl
    _ = List.range' 0 (edges.filter (·.pair = p)).length := by
        rw [h_alone]
        exact index_bendsAfter (by simp) h_pair
    _ = List.range (edges.countP (·.pair = p)) := by
        rw [List.countP_eq_length_filter, List.range_eq_range']

/-- No two edges of a pair share their bend. -/
theorem pairwise_index_ne (edges : List Edge) (p : Nat × Nat) :
    (parallels edges p).Pairwise fun x y => x.2.index ≠ y.2.index := by
  rw [← List.pairwise_map, map_index_parallels]
  exact List.nodup_range

/-- All edges of a pair are drawn as its first edge runs. -/
theorem find?_of_mem_parallels (h : bent ∈ parallels edges p) :
    edges.find? (·.pair = p) = some bent.2.drawn := by
  obtain ⟨h_zip, rfl⟩ := mem_parallels.1 h
  obtain ⟨k, h_k⟩ := List.mem_iff_getElem?.1 h_zip
  obtain ⟨h_edge, h_bend⟩ := List.getElem?_zip_eq_some.1 h_k
  rw [bends_eq, getElem?_bendsAfter, h_edge] at h_bend
  -- what an edge is drawn as is its first mate, and that is the first edge of the pair
  rw [← Option.some.inj h_bend]
  exact find?_eq_firstMate h_edge

/-- The edges of a pair are loops or none of them is. -/
theorem isLoop_of_pair_eq {e : Edge} (h : e.pair = p) : e.isLoop = decide (p.1 = p.2) := by
  subst h
  unfold Edge.isLoop Edge.pair
  rw [Bool.eq_iff_iff, beq_iff_eq, decide_eq_true_iff]
  omega

/-! ### Displacements -/

section Displacement

variable {α : Type} [Field α]

/-- A bend moves an edge by its steps. -/
theorem bendDisplacement_eq (bend : Nat) (bendiness : α) (isLoop : Bool) :
    bendDisplacement bend bendiness isLoop = bendiness * (bendSteps isLoop bend : α) := by
  unfold bendDisplacement bendSteps
  cases isLoop with
  | true =>
    simp only [if_pos, nat]
    push_cast
    ring
  | false =>
    simp only [Bool.false_eq_true, if_false, nat]
    -- the halves are whole numbers once the side is known
    obtain ⟨j, rfl | rfl⟩ := bend.even_or_odd'
    · rw [if_pos (by omega), if_pos (by omega), show (2 * j + 1) / 2 = j by omega]
      push_cast
      ring
    · rw [if_neg (by omega), if_neg (by omega), show (2 * j + 1 + 1) / 2 = j + 1 by omega]
      push_cast
      ring

/-- The displacements of the edges of a pair, in order. -/
def displacements (bendiness : α) (edges : List Edge) (p : Nat × Nat) : List α :=
  (parallels edges p).map fun bent => bendDisplacement bent.2.index bendiness bent.1.isLoop

/-- **The displacements of a pair** are the bendiness times 2, 4, 6, … for loops, and times 0, -2,
2, -4, 4, … for edges between two vertices. -/
theorem displacements_eq (bendiness : α) (edges : List Edge) (p : Nat × Nat) :
    displacements bendiness edges p =
      (List.range (edges.countP (·.pair = p))).map fun k =>
        bendiness * (bendSteps (p.1 = p.2) k : α) := by
  rw [← map_index_parallels, List.map_map]
  apply List.map_congr_left
  intro bent h_bent
  rw [bendDisplacement_eq, isLoop_of_pair_eq (mem_parallels.1 h_bent).2]
  rfl

variable [LinearOrder α] [IsStrictOrderedRing α] {bendiness : α} (h : bendiness ≠ 0)
include h

/-- Different bends are displaced by different amounts. -/
theorem bendDisplacement_injective (isLoop : Bool) :
    Function.Injective fun bend => bendDisplacement bend bendiness isLoop := by
  intro i j h_same
  dsimp only at h_same
  rw [bendDisplacement_eq, bendDisplacement_eq] at h_same
  have h_steps := mul_left_cancel₀ h h_same
  exact bendSteps_injective isLoop (Int.cast_injective h_steps)

/-- Only the first edge between two vertices is not displaced. -/
theorem bendDisplacement_eq_zero_iff {bend : Nat} {isLoop : Bool} :
    bendDisplacement bend bendiness isLoop = 0 ↔ isLoop = false ∧ bend = 0 := by
  rw [bendDisplacement_eq, mul_eq_zero, or_iff_right h, Int.cast_eq_zero, bendSteps_eq_zero_iff]

omit h in
/-- A later bend moves an edge by at least twice the bendiness. -/
theorem le_abs_bendDisplacement {bend : Nat} (h_bend : bend ≠ 0) (bendiness : α) :
    2 * |bendiness| ≤ |bendDisplacement bend bendiness false| := by
  -- the second edge goes to one side by two steps, and from there on they only get larger
  have h_steps : 2 ≤ |bendSteps false bend| := by
    unfold bendSteps
    grind
  have h_cast : (2 : α) ≤ |(bendSteps false bend : α)| := by exact_mod_cast h_steps
  rw [bendDisplacement_eq, abs_mul, mul_comm]
  gcongr

end Displacement

/-! ### Routes in one frame -/

section Frame

variable {α : Type} [Field α] [LinearOrder α] [IsStrictOrderedRing α] [Scalar α]

variable {place : Nat → Point α} {center normal : Point α} {bendiness : α}

/-- The anchor of a curve is the middle between its ends, moved along their normal. -/
theorem anchor_of_curve? {start finish anchor : Point α} {d : α} {stroke : Stroke α}
    (h_normal : Point.normal? start finish = some normal)
    (h : curve? start finish d = some (anchor, stroke)) :
    anchor = start.midpoint finish + normal.scale d := by
  unfold curve? at h
  dsimp only at h
  split at h
  · next h_zero =>
    -- a straight line is the case of no move
    obtain rfl : d = 0 := by simpa using h_zero
    cases h
    exact (Point.add_scale_zero _ _).symm
  · obtain ⟨n, h_n, h_circle⟩ := Option.bind_eq_some_iff.1 h
    obtain rfl : n = normal := Option.some.inj (h_n.symm.trans h_normal)
    obtain ⟨circle, -, h_arc⟩ := Option.bind_eq_some_iff.1 h_circle
    cases h_arc
    rfl

/-- How a route lies in the frame of the two places that an edge with the given bend is drawn
between. -/
structure Route.MovedBy (bendiness : α) (start finish normal : Point α) (bend : Nat)
    (r : Route α) : Prop where
  displacement : r.displacement = bendDisplacement bend bendiness false
  /-- The anchor is the middle between the places, moved along their normal. -/
  anchor : r.anchor = start.midpoint finish + normal.scale r.displacement
  /-- It is a point of the perpendicular bisector. -/
  bisecting : r.anchor.distance start = r.anchor.distance finish
  /-- The first bend is no bend. -/
  straight : (∃ p q, r.stroke = .straight p q) ↔ bend = 0

section OneEdge

variable [ExactLength α] (h_loop : bent.1.isLoop = false)
  (h_normal : Point.normal? (place bent.2.drawn.source) (place bent.2.drawn.target) = some normal)
include h_loop h_normal

/-- **One edge** lies in the frame of its two places as its bend asks. -/
theorem Route.movedBy_of_among (h : bendiness ≠ 0) {r : Route α}
    (h_route : Route.among place center bendiness bent = .ok r) :
    r.MovedBy bendiness (place bent.2.drawn.source) (place bent.2.drawn.target) normal
      bent.2.index := by
  have h_draws := Route.draws_of_among h_route
  have h_anchor : r.anchor = (place bent.2.drawn.source).midpoint (place bent.2.drawn.target) +
      normal.scale r.displacement := by
    unfold Route.among Route.between at h_route
    -- a loop has a route of another kind, and this edge is none
    dsimp only at h_route
    rw [h_loop, if_neg Bool.false_ne_true] at h_route
    split at h_route
    · cases h_route
    · next anchor stroke h_curve =>
      cases h_route
      exact anchor_of_curve? h_normal h_curve
  have h_move := h_draws.displacement
  rw [h_loop] at h_move
  refine ⟨h_move, h_anchor, ?bisecting, ?straight⟩
  case bisecting =>
    rw [h_anchor]
    exact Point.distance_moved h_normal r.displacement
  case straight =>
    rw [h_draws.straight, h_move, beq_iff_eq, nat, Nat.cast_zero, bendDisplacement_eq_zero_iff h]
    simp [h_loop]

/-- One edge has a route unless its places and its move are too small together. -/
theorem hasRoute_iff (h : bendiness ≠ 0) :
    HasRoute place bendiness bent ↔
      bent.2.index = 0 ∨
        tolerance ≤ 2 * (place bent.2.drawn.source).distance (place bent.2.drawn.target) *
          |bendDisplacement bent.2.index bendiness false| := by
  -- a move of nothing is one of no steps
  have h_straight : (bendDisplacement bent.2.index bendiness false == nat 0) = true ↔
      bent.2.index = 0 := by
    rw [beq_iff_eq, nat, Nat.cast_zero, bendDisplacement_eq_zero_iff h]
    simp
  unfold HasRoute
  dsimp only
  rw [h_straight, h_normal, ← not_lt, ← Circle.through?_moved_eq_none_iff h_normal, ← ne_eq,
    Option.ne_none_iff_exists']
  simp [h_loop]

end OneEdge

/-- **Far apart**: an edge has a route between two places of a table if these and the bendiness are
not next to nothing together. -/
theorem Route.exists_of_far [ExactLength α] {positions : Array (Point α)} {start finish : Point α}
    (h_loop : bent.1.isLoop = false) (h_start : positions[bent.2.drawn.source]? = some start)
    (h_finish : positions[bent.2.drawn.target]? = some finish)
    (h_far : epsilon < start.distance finish)
    (h_large : tolerance ≤ 4 * start.distance finish * |bendiness|) (center : Point α) :
    ∃ r, Route.of positions center bendiness bent = .ok r ∧ Route.Draws bendiness bent r := by
  have h_bendiness : bendiness ≠ 0 := by
    rintro rfl
    rw [abs_zero, mul_zero] at h_large
    exact absurd tolerance_pos (not_lt.2 h_large)
  obtain ⟨h_source, h_target, h_route⟩ :=
    Route.of_eq_among_getD h_start h_finish center bendiness start
  have h_normal := Point.normal?_eq_some_iff.2 ⟨h_far, rfl⟩
  -- the first edge is straight, and a later one is moved by enough for a circle
  have h_has : HasRoute (positions.getD · start) bendiness bent := by
    rw [hasRoute_iff h_loop (by rw [h_source, h_target]; exact h_normal) h_bendiness, h_source,
      h_target]
    by_cases h_index : bent.2.index = 0
    · exact Or.inl h_index
    · have h_move := le_abs_bendDisplacement h_index bendiness
      have h_nonneg : 0 ≤ 2 * start.distance finish :=
        mul_nonneg zero_le_two (epsilon_pos.trans h_far).le
      refine Or.inr (h_large.trans ?_)
      calc 4 * start.distance finish * |bendiness|
          = 2 * start.distance finish * (2 * |bendiness|) := by ring
        _ ≤ 2 * start.distance finish * |bendDisplacement bent.2.index bendiness false| := by gcongr
  obtain ⟨r, h_among⟩ := Route.exists_among_iff.2 h_has
  exact ⟨r, h_route.trans h_among, Route.draws_of_among h_among⟩

end Frame

/-! ### Apart -/

section Apart

variable {α : Type} [Field α] [LinearOrder α] [Scalar α]

/-- **Edges that are spread out** between two places, along the normal of the segment between
them. -/
structure SpreadOut (positions : Array (Point α)) (center : Point α) (bendiness : α)
    (start finish normal : Point α) (bents : List (Edge × Bend)) : Prop where
  frame : Point.normal? start finish = some normal
  unit : normal.length = 1
  upright : normal.x * (finish.x - start.x) + normal.y * (finish.y - start.y) = 0
  /-- The first edge has a route, and any other unless it is moved by too little. -/
  routed : ∀ bent ∈ bents, (∃ r, Route.of positions center bendiness bent = .ok r) ↔
    bent.2.index = 0 ∨ tolerance ≤ 2 * start.distance finish *
      |bendDisplacement bent.2.index bendiness false|
  moved : ∀ bent ∈ bents, ∀ r, Route.of positions center bendiness bent = .ok r →
    r.MovedBy bendiness start finish normal bent.2.index
  /-- No two edges share their displacement or their anchor. -/
  apart : bents.Pairwise fun x y => ∀ r s, Route.of positions center bendiness x = .ok r →
    Route.of positions center bendiness y = .ok s →
      r.displacement ≠ s.displacement ∧ r.anchor ≠ s.anchor

variable {first : Edge} (h_first : edges.find? (·.pair = p) = some first)
  {positions : Array (Point α)} {start finish : Point α}
  (h_start : positions[first.source]? = some start)
  (h_finish : positions[first.target]? = some finish)
include h_first

/-- The edges of a pair are loops if the first one is. -/
theorem isLoop_of_mem_parallels (h : bent ∈ parallels edges p) : bent.1.isLoop = first.isLoop := by
  have h_pair : first.pair = p := by simpa using List.find?_some h_first
  rw [isLoop_of_pair_eq (mem_parallels.1 h).2, isLoop_of_pair_eq h_pair]

theorem drawn_of_mem_parallels (h : bent ∈ parallels edges p) : bent.2.drawn = first :=
  Option.some.inj ((find?_of_mem_parallels h).symm.trans h_first)

include h_start h_finish

/-- **All edges of a pair** are routed between the two places that the first one joins. -/
theorem exists_place_of_parallels (center : Point α) (bendiness : α) :
    ∃ place : Nat → Point α, ∀ bent ∈ parallels edges p,
      place bent.2.drawn.source = start ∧ place bent.2.drawn.target = finish ∧
        Route.of positions center bendiness bent = Route.among place center bendiness bent := by
  -- places that nothing stands in do not matter, so any point fills them
  refine ⟨(positions.getD · start), fun bent h_bent => ?_⟩
  rw [← drawn_of_mem_parallels h_first h_bent] at h_start h_finish
  exact Route.of_eq_among_getD h_start h_finish center bendiness start

/-- **Loops of a pair** all grow away from the centre of the ring, each by its displacement. -/
theorem grown_parallels (h_loop : first.isLoop = true) (bendiness : α) (center : Point α) :
    ∀ bent ∈ parallels edges p, ∃ r, Route.of positions center bendiness bent = .ok r ∧
      r.displacement = bendDisplacement bent.2.index bendiness true ∧
      r.anchor = start + (outward center start).scale r.displacement := by
  obtain ⟨place, h_place⟩ :=
    exists_place_of_parallels h_first h_start h_finish center bendiness
  intro bent h_bent
  obtain ⟨h_source, -, h_route⟩ := h_place bent h_bent
  refine ⟨Route.ofLoop center start bendiness bent.1 bent.2, ?_, rfl, rfl⟩
  rw [h_route, ← h_source]
  -- a loop has a route whatever its displacement
  unfold Route.among
  dsimp only
  rw [if_pos ((isLoop_of_mem_parallels h_first h_bent).trans h_loop)]

variable [IsStrictOrderedRing α] [ExactLength α]

/-- **Edges of a pair are spread out** between the places of its vertices if these are far enough
apart. -/
theorem spreadOut_parallels (h_loop : first.isLoop = false) {bendiness : α} (h : bendiness ≠ 0)
    (h_far : epsilon < start.distance finish) (center : Point α) :
    ∃ normal, SpreadOut positions center bendiness start finish normal (parallels edges p) := by
  obtain ⟨normal, h_normal⟩ : ∃ normal, Point.normal? start finish = some normal :=
    ⟨_, Point.normal?_eq_some_iff.2 ⟨h_far, rfl⟩⟩
  obtain ⟨place, h_place⟩ :=
    exists_place_of_parallels h_first h_start h_finish center bendiness
  have h_line : ∀ bent ∈ parallels edges p, bent.1.isLoop = false := fun bent h_bent =>
    (isLoop_of_mem_parallels h_first h_bent).trans h_loop
  -- all of them are drawn in the direction of the first edge, so they have one normal
  have h_frame : ∀ bent ∈ parallels edges p,
      Point.normal? (place bent.2.drawn.source) (place bent.2.drawn.target) = some normal := by
    intro bent h_bent
    obtain ⟨h_source, h_target, -⟩ := h_place bent h_bent
    rw [h_source, h_target]
    exact h_normal
  have h_moved : ∀ bent ∈ parallels edges p, ∀ r,
      Route.of positions center bendiness bent = .ok r →
        r.MovedBy bendiness start finish normal bent.2.index := by
    intro bent h_bent r h_r
    obtain ⟨h_source, h_target, h_route⟩ := h_place bent h_bent
    rw [h_route] at h_r
    have h_one := Route.movedBy_of_among (h_line bent h_bent) (h_frame bent h_bent) h h_r
    rw [h_source, h_target] at h_one
    exact h_one
  refine ⟨normal, h_normal, ?unit, ?upright, ?routed, h_moved, ?apart⟩
  case unit => exact Point.length_of_normal? h_normal
  case upright => exact Point.upright_of_normal? h_normal
  case routed =>
    intro bent h_bent
    obtain ⟨h_source, h_target, h_route⟩ := h_place bent h_bent
    rw [h_route, Route.exists_among_iff, hasRoute_iff (h_line bent h_bent) (h_frame bent h_bent) h,
      h_source, h_target]
  case apart =>
    -- the bends of two edges differ, hence their displacements, hence their anchors
    refine (pairwise_index_ne edges p).imp_of_mem fun {x y} h_x h_y h_index r s h_r h_s => ?_
    have h_x := h_moved x h_x r h_r
    have h_y := h_moved y h_y s h_s
    have h_apart : r.displacement ≠ s.displacement := by
      rw [h_x.displacement, h_y.displacement]
      exact fun h_same => h_index (bendDisplacement_injective h false h_same)
    refine ⟨h_apart, fun h_same => h_apart ?_⟩
    rw [h_x.anchor, h_y.anchor] at h_same
    exact Point.moved_injective h_normal h_same

end Apart

/-- **Parallel edges stay apart.** The bends of the edges of a pair are 0, 1, 2, … in order, and for
a bendiness that is not zero their displacements are all different: the bendiness times 2, 4, 6, …
for loops, and times 0, -2, 2, -4, 4, … for edges between two vertices. They are displaced in one
frame, whichever way they run. Loops are displaced away from the centre of the ring. Edges between
two vertices are displaced along the normal from the vertex where the first of them begins to the
one where it ends; if these are far enough apart, all anchors are different points of the
perpendicular bisector, and only the first edge is straight. -/
theorem parallels_apart {α : Type} [Field α] [LinearOrder α] [IsStrictOrderedRing α] [Scalar α]
    [ExactLength α] {bendiness : α} (h : bendiness ≠ 0) (edges : List Edge) (p : Nat × Nat) :
    (parallels edges p).map (·.2.index) = List.range (edges.countP (·.pair = p)) ∧
    displacements bendiness edges p =
      ((List.range (edges.countP (·.pair = p))).map fun k =>
        bendiness * (bendSteps (p.1 = p.2) k : α)) ∧
    (displacements bendiness edges p).Nodup ∧
    ∀ first, edges.find? (·.pair = p) = some first →
      (∀ bent ∈ parallels edges p, bent.2.drawn = first) ∧
      ∀ (positions : Array (Point α)) (center start finish : Point α),
        positions[first.source]? = some start → positions[first.target]? = some finish →
        (first.isLoop = true →
          ∀ bent ∈ parallels edges p, ∃ r, Route.of positions center bendiness bent = .ok r ∧
            r.displacement = bendDisplacement bent.2.index bendiness true ∧
            r.anchor = start + (outward center start).scale r.displacement) ∧
        (first.isLoop = false → epsilon < start.distance finish →
          ∃ normal,
            SpreadOut positions center bendiness start finish normal (parallels edges p)) := by
  refine ⟨map_index_parallels edges p, displacements_eq bendiness edges p, ?_, fun first h_first =>
    ⟨fun bent h_bent => drawn_of_mem_parallels h_first h_bent, ?_⟩⟩
  · -- the moves differ as the bends do
    rw [displacements_eq]
    refine List.nodup_range.map fun i j h_same => ?_
    have h_steps := mul_left_cancel₀ h h_same
    exact bendSteps_injective _ (Int.cast_injective h_steps)
  · intro positions center start finish h_start h_finish
    refine ⟨fun h_loop => ?_, fun h_loop h_far => ?_⟩
    · exact grown_parallels h_first h_start h_finish h_loop bendiness center
    · exact spreadOut_parallels h_first h_start h_finish h_loop h h_far center

/-- Two edges that run against each other. -/
private def reciprocal : List Edge := [⟨0, 1⟩, ⟨1, 0⟩]

/-- The places of their two vertices. -/
private def apartByTwo : Array (Point ℝ) := #[⟨0, 0⟩, ⟨2, 0⟩]

/-- The second edge is drawn beside the first, although it runs against it. -/
theorem parallels_apart_reciprocal :
    (10 : ℝ) ≠ 0 ∧ displacements (10 : ℝ) reciprocal (0, 1) = [0, -20] ∧
      ∃ r s : Route ℝ, Route.of apartByTwo ⟨1, 0⟩ 10 (⟨0, 1⟩, ⟨0, ⟨0, 1⟩, false⟩) = .ok r ∧
        Route.of apartByTwo ⟨1, 0⟩ 10 (⟨1, 0⟩, ⟨1, ⟨0, 1⟩, true⟩) = .ok s ∧
        r.anchor ≠ s.anchor := by
  have h_bendiness : (10 : ℝ) ≠ 0 := by norm_num
  have h_parallels : parallels reciprocal (0, 1) =
      [(⟨0, 1⟩, ⟨0, ⟨0, 1⟩, false⟩), (⟨1, 0⟩, ⟨1, ⟨0, 1⟩, true⟩)] := by
    rw [parallels, bends_eq]
    decide
  have h_distance : (⟨0, 0⟩ : Point ℝ).distance ⟨2, 0⟩ = 2 := by
    rw [Point.distance_of_level (a := (⟨0, 0⟩ : Point ℝ)) (b := ⟨2, 0⟩) rfl]
    norm_num
  obtain ⟨-, h_moves, -, h_frame⟩ := parallels_apart h_bendiness reciprocal (0, 1)
  obtain ⟨-, h_places⟩ := h_frame ⟨0, 1⟩ (by decide)
  obtain ⟨-, h_spread⟩ := h_places apartByTwo ⟨1, 0⟩ ⟨0, 0⟩ ⟨2, 0⟩ rfl rfl
  obtain ⟨normal, h_spread⟩ := h_spread rfl (by rw [h_distance]; norm_num [epsilon])
  rw [h_parallels] at h_spread
  obtain ⟨r, h_r⟩ := (h_spread.routed _ List.mem_cons_self).2 (Or.inl rfl)
  -- the second edge is moved by twenty, which is more than enough for a circle
  have h_large : (tolerance : ℝ) ≤ 2 * (⟨0, 0⟩ : Point ℝ).distance ⟨2, 0⟩ *
      |bendDisplacement 1 10 false| := by
    rw [h_distance, bendDisplacement_eq]
    norm_num [bendSteps, tolerance]
  obtain ⟨s, h_s⟩ := (h_spread.routed (⟨1, 0⟩, ⟨1, ⟨0, 1⟩, true⟩) (by simp)).2 (Or.inr h_large)
  refine ⟨h_bendiness, ?_, r, s, h_r, h_s, ?_⟩
  · rw [h_moves]
    have h_count : reciprocal.countP (·.pair = (0, 1)) = 2 := by decide
    rw [h_count]
    norm_num [List.range_succ, bendSteps]
  · exact (List.pairwise_pair.1 h_spread.apart r s h_r h_s).2

end RingDiagram
