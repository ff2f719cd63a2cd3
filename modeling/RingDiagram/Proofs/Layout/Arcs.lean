import RingDiagram.Proofs.Geometry.Sweep
import RingDiagram.Proofs.Layout.Parallel

/-!
# Arcs go through their anchors

Through two points of a circle there are two arcs, and the one that an edge is drawn with is told
from the other by the order of its angles only. It is the right one, the arc with the anchor on it:

* the circle meets both ends of the edge and the anchor (`Circle.meets_of_through?`), however far
  the anchor is moved, so both arcs are at hand, the lesser and the greater;
* the ends and the anchor turn as the move goes (`Circle.cross_moved`), and the arc begins at one
  end or the other as the move goes, too. So the end that it begins at, the anchor and the end that
  it ends at always turn clockwise (`clockwiseArc_of_curve?`);
* of the points of a circle, those that turn clockwise with the ends of an arc are the points that
  are passed on the way from its first end to its last (`Circle.passes_iff`).
-/

namespace RingDiagram

open Scalar

/-! ### Curves -/

section Curve

variable {α : Type}

theorem positionOf_eq_ok_iff {positions : Array (Point α)} {slot : Nat} {p : Point α} :
    positionOf positions slot = .ok p ↔ positions[slot]? = some p := by
  unfold positionOf
  cases positions[slot]? with
  | none => simp
  | some q => simp

variable [Add α] [Sub α] [Mul α] [Div α] [Neg α] [NatCast α] [LT α] [DecidableLT α] [BEq α]
  [Scalar α]

variable {start finish anchor : Point α} {d : α} {circle : Circle α} {startAngle endAngle : α}

/-- An edge that is drawn with an arc is drawn with a curve between the places of its ends. -/
theorem Route.exists_curve_of_arc {positions : Array (Point α)} {center : Point α} {bendiness : α}
    {bent : Edge × Bend} {r : Route α} (h : Route.of positions center bendiness bent = .ok r)
    (h_arc : r.stroke = .arc circle startAngle endAngle) :
    ∃ start finish, positions[bent.2.drawn.source]? = some start ∧
      positions[bent.2.drawn.target]? = some finish ∧
      curve? start finish r.displacement = some (r.anchor, .arc circle startAngle endAngle) := by
  obtain ⟨edge, bend⟩ := bent
  -- the steps of a route before the curve: both ends have a place
  obtain ⟨start, h_start, h⟩ := bind_eq_ok_iff.1 h
  obtain ⟨finish, h_finish, h⟩ := bind_eq_ok_iff.1 h
  refine ⟨start, finish, positionOf_eq_ok_iff.1 h_start, positionOf_eq_ok_iff.1 h_finish, ?_⟩
  split at h
  · -- a loop is drawn with a circle
    cases h
    cases h_arc
  · unfold Route.between at h
    dsimp only at h
    split at h
    · cases h
    · next curve h_curve =>
      cases h
      rw [← h_arc]
      exact h_curve

/-- An arc is made of a circle through the ends of the edge and its anchor, and begins at the far
end for a move to the right of the edge, at the near end otherwise. -/
theorem arc_of_curve? (h : curve? start finish d = some (anchor, .arc circle startAngle endAngle)) :
    ∃ normal, Point.normal? start finish = some normal ∧ (d == nat 0) = false ∧
      anchor = start.midpoint finish + normal.scale d ∧
      Circle.through? start finish anchor = some circle ∧
      (startAngle, endAngle) =
        if nat 0 < d then (finish.bearingFrom circle.center, start.bearingFrom circle.center)
        else (start.bearingFrom circle.center, finish.bearingFrom circle.center) := by
  unfold curve? at h
  dsimp only at h
  split at h
  · cases h
  · -- a line has no angles, so there was a move, a normal and a circle
    next h_d =>
    obtain ⟨normal, h_normal, h⟩ := Option.bind_eq_some_iff.1 h
    obtain ⟨c, h_circle, h⟩ := Option.bind_eq_some_iff.1 h
    refine ⟨normal, h_normal, Bool.eq_false_of_not_eq_true h_d, ?_⟩
    split at h
    · next h_pos =>
      cases h
      rw [if_pos h_pos]
      exact ⟨rfl, h_circle, rfl⟩
    · next h_neg =>
      cases h
      rw [if_neg h_neg]
      exact ⟨rfl, h_circle, rfl⟩

end Curve

/-! ### The right arc -/

section Arc

variable {α : Type} [Field α] [LinearOrder α] [Scalar α]

/-- An arc from one point to another that goes clockwise through a third: all three are on the
circle, its angles are those of the two ends, and the three points turn clockwise in this order. -/
structure ClockwiseArc (circle : Circle α) (startAngle endAngle : α)
    (first through last : Point α) : Prop where
  startAngle : startAngle = first.bearingFrom circle.center
  endAngle : endAngle = last.bearingFrom circle.center
  meets : ∀ p ∈ [first, through, last], circle.Meets p ∧
    (p - circle.center).normSquared = circle.radius * circle.radius
  turns : 0 < (through - first).cross (last - first)

/-- The ends of a stroke between two points that is moved off the straight line, in the order in
which it is drawn. -/
def drawnEnds (start finish : Point α) (d : α) : Point α × Point α :=
  if 0 < d then (finish, start) else (start, finish)

variable [IsStrictOrderedRing α] [ExactLength α]
  {start finish anchor : Point α} {d : α} {circle : Circle α} {startAngle endAngle : α}

/-- **The arc of a curve** goes clockwise through the anchor. -/
theorem clockwiseArc_of_curve?
    (h : curve? start finish d = some (anchor, .arc circle startAngle endAngle)) :
    ClockwiseArc circle startAngle endAngle (drawnEnds start finish d).1 anchor
      (drawnEnds start finish d).2 := by
  obtain ⟨normal, h_normal, h_d, h_anchor, h_circle, h_angles⟩ := arc_of_curve? h
  obtain ⟨h_start, h_finish, h_meets⟩ := Circle.meets_of_through? h_circle
  have h_turn := Circle.cross_moved h_normal d
  have h_pos := Point.distance_pos_of_normal? h_normal
  -- how the points turn is known of the move, and the anchor is where the move goes
  rw [← h_anchor] at h_turn
  rw [nat, Nat.cast_zero] at h_angles
  unfold drawnEnds
  split at h_angles
  · -- moved to the right of the edge, the arc begins at its far end
    next h_right =>
    cases h_angles
    rw [if_pos h_right]
    refine ⟨rfl, rfl, ?meets, ?turns⟩
    case meets => simp [h_start, h_finish, h_meets, Circle.Meets.normSquared]
    case turns =>
      -- from the far end on it is the same turn as from the near end
      rw [Point.cross_rotate, h_turn]
      exact mul_pos h_pos h_right
  · -- moved to the left of it, or nowhere, it begins at the near end
    next h_left =>
    cases h_angles
    rw [if_neg h_left]
    refine ⟨rfl, rfl, ?meets, ?turns⟩
    case meets => simp [h_start, h_finish, h_meets, Circle.Meets.normSquared]
    case turns =>
      -- a move of nothing would have been a line
      have h_neg : d < 0 := by
        refine (not_lt.1 h_left).lt_of_ne fun h_zero => ?_
        simp [h_zero] at h_d
      rw [Point.cross_swap, h_turn]
      exact neg_pos.2 (mul_neg_of_pos_of_neg h_pos h_neg)

end Arc

/-! ### The way around -/

namespace ClockwiseArc

variable {circle : Circle ℝ} {startAngle endAngle : ℝ} {first through last p : Point ℝ}
  (h : ClockwiseArc circle startAngle endAngle first through last)
include h

theorem radius_ne_zero : circle.radius ≠ 0 := by
  intro h_zero
  have h_turn := h.turns
  -- points of a circle without extent do not turn
  rw [Circle.cross_eq (h.meets first (by simp)).1 (h.meets last (by simp)).1
    (h.meets through (by simp)).1, h_zero] at h_turn
  simp at h_turn

/-- **The points of an arc** are those of its circle that turn clockwise with its ends. -/
theorem mem_iff (h_p : circle.Meets p) :
    0 < clockwise startAngle (p.bearingFrom circle.center) ∧
        clockwise startAngle (p.bearingFrom circle.center) < clockwise startAngle endAngle ↔
      0 < (p - first).cross (last - first) := by
  rw [← Circle.passes_iff h.radius_ne_zero (h.meets first (by simp)).1
    (h.meets last (by simp)).1 h_p, h.startAngle, h.endAngle]
  rfl

end ClockwiseArc

/-- **Arcs go through their anchors.** In exact numbers, an edge that is drawn with an arc is drawn
with one of a circle that meets the places of both its ends and its anchor. The arc begins at the
angle of one end and ends at the angle of the other, and the end that it begins at, the anchor and
the end that it ends at turn clockwise, whichever way the anchor is moved and however far. For real
numbers and their angles this says that going from the angle where the arc begins in the direction
of growing angles one comes to the anchor before one comes to the angle where it ends, and that one
comes to the points of the circle on that side of the line through the ends and to no others. -/
theorem arc_through_anchor :
    (∀ (α : Type) [Field α] [LinearOrder α] [IsStrictOrderedRing α] [Scalar α] [ExactLength α]
      (positions : Array (Point α)) (center : Point α) (bendiness : α) (bent : Edge × Bend)
      (r : Route α) (circle : Circle α) (startAngle endAngle : α),
      Route.of positions center bendiness bent = .ok r →
      r.stroke = .arc circle startAngle endAngle →
      ∃ start finish, positions[bent.2.drawn.source]? = some start ∧
        positions[bent.2.drawn.target]? = some finish ∧
        ClockwiseArc circle startAngle endAngle (drawnEnds start finish r.displacement).1 r.anchor
          (drawnEnds start finish r.displacement).2) ∧
    ∀ (circle : Circle ℝ) (startAngle endAngle : ℝ) (first through last : Point ℝ),
      ClockwiseArc circle startAngle endAngle first through last →
      (0 < clockwise startAngle (through.bearingFrom circle.center) ∧
        clockwise startAngle (through.bearingFrom circle.center) <
          clockwise startAngle endAngle) ∧
      ∀ p, circle.Meets p →
        (0 < clockwise startAngle (p.bearingFrom circle.center) ∧
            clockwise startAngle (p.bearingFrom circle.center) < clockwise startAngle endAngle ↔
          0 < (p - first).cross (last - first)) := by
  constructor
  · -- in exact numbers the route has its curve, and the curve the right arc
    intro α _ _ _ _ _ positions center bendiness bent r circle startAngle endAngle h h_arc
    obtain ⟨start, finish, h_start, h_finish, h_curve⟩ := Route.exists_curve_of_arc h h_arc
    exact ⟨start, finish, h_start, h_finish, clockwiseArc_of_curve? h_curve⟩
  · -- in real numbers the anchor is one of the points on its side
    intro circle startAngle endAngle first through last h
    exact ⟨(h.mem_iff (h.meets through (by simp)).1).2 h.turns, fun p h_p => h.mem_iff h_p⟩

/-- The places of two vertices on one level. -/
private def level : Array (Point ℝ) := #[⟨0, 0⟩, ⟨1, 0⟩]

/-- The second edge between them, which runs against the first. -/
private def runningBack : Edge × Bend := (⟨1, 0⟩, ⟨1, ⟨0, 1⟩, true⟩)

/-- It is moved to the left of the first edge, so its arc begins where the first edge does. -/
theorem arc_through_anchor_running_back :
    ∃ (r : Route ℝ) (circle : Circle ℝ) (startAngle endAngle : ℝ),
      Route.of level ⟨1, 0⟩ 10 runningBack = .ok r ∧ r.stroke = .arc circle startAngle endAngle ∧
      ClockwiseArc circle startAngle endAngle ⟨0, 0⟩ r.anchor ⟨1, 0⟩ ∧
      0 < clockwise startAngle (r.anchor.bearingFrom circle.center) ∧
      clockwise startAngle (r.anchor.bearingFrom circle.center) <
        clockwise startAngle endAngle := by
  have h_distance : (⟨0, 0⟩ : Point ℝ).distance ⟨1, 0⟩ = 1 := by
    rw [Point.distance_of_level (a := (⟨0, 0⟩ : Point ℝ)) (b := ⟨1, 0⟩) rfl]
    norm_num
  have h_first : level[runningBack.2.drawn.source]? = some ⟨0, 0⟩ := rfl
  have h_last : level[runningBack.2.drawn.target]? = some ⟨1, 0⟩ := rfl
  -- the two places and the bendiness are far from nothing, so the edge has a route
  obtain ⟨r, h_route, h_draws⟩ : ∃ r : Route ℝ, Route.of level ⟨1, 0⟩ 10 runningBack = .ok r ∧
      Route.Draws 10 runningBack r := by
    refine Route.exists_of_far rfl h_first h_last ?_ ?_ _
    · rw [h_distance]
      norm_num [epsilon]
    · rw [h_distance]
      norm_num [tolerance]
  -- it is moved by twenty to the left, so it is drawn with an arc
  have h_displacement : r.displacement = -20 := by
    refine h_draws.displacement.trans ((bendDisplacement_eq 1 10 false).trans ?_)
    norm_num [bendSteps]
  obtain ⟨circle, startAngle, endAngle, h_stroke⟩ := h_draws.arc.2
    ⟨rfl, by rw [h_displacement]; norm_num⟩
  obtain ⟨start, finish, h_start, h_finish, h_arc⟩ := arc_through_anchor.1 ℝ level ⟨1, 0⟩ 10
    runningBack r circle startAngle endAngle h_route h_stroke
  -- the places that the theorem speaks of are those of the two vertices
  obtain rfl := Option.some.inj (h_first.symm.trans h_start)
  obtain rfl := Option.some.inj (h_last.symm.trans h_finish)
  have h_ends : drawnEnds (⟨0, 0⟩ : Point ℝ) ⟨1, 0⟩ r.displacement = (⟨0, 0⟩, ⟨1, 0⟩) := by
    rw [h_displacement, drawnEnds, if_neg (by norm_num)]
  rw [h_ends] at h_arc
  obtain ⟨⟨h_after, h_before⟩, -⟩ := arc_through_anchor.2 circle startAngle endAngle _ _ _ h_arc
  exact ⟨r, circle, startAngle, endAngle, h_route, h_stroke, h_arc, h_after, h_before⟩

end RingDiagram
