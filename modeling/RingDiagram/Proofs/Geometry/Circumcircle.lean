import RingDiagram.Proofs.Geometry.Exact

/-!
# The circle through three points

Cramer's rule gives the centre as the solution of two linear equations, one for each of the
bisectors that it lies on (`Circle.Bisects`). That is all that is needed of the formulas: the centre
is as far from each of the three points as from the others, and the radius is that distance
(`Circle.meets_of_through?`).

On which side of each other three points lie is told by the sign of a cross product, and the
determinant of the equations is twice that (`Circle.determinant_eq_cross`). A segment and a point
that its middle is moved to are oriented as the move goes (`Circle.cross_moved`).

Where the cross product does not vanish no other point is as far from all three
(`Point.Equidistant.eq_of_cross_ne_zero`). So the circle does not depend on the order in which the
points are given (`Circle.through?_of_perm`), although the formulas do. `Circle.through?_exact` puts
this together.
-/

namespace RingDiagram

open Scalar

variable {α : Type} [Field α]

/-- The cross product of two vectors: positive when the second lies clockwise of the first on
screen, negative when it lies counterclockwise. -/
def Point.cross (p q : Point α) : α :=
  p.x * q.y - p.y * q.x

/-- The determinant is twice the cross product of two sides. -/
theorem Circle.determinant_eq_cross (a b c : Point α) :
    determinant a b c = 2 * (b - a).cross (c - a) := by
  simp only [determinant, Point.cross, Point.x_sub, Point.y_sub, nat, Nat.cast_ofNat]
  ring

namespace Point

/-- Three points turn the same way from whichever of them one starts. -/
theorem cross_rotate (a b c : Point α) : (c - b).cross (a - b) = (b - a).cross (c - a) := by
  simp only [cross, x_sub, y_sub]
  ring

/-- Three points in the other order turn the other way. -/
theorem cross_swap (a b c : Point α) : (c - a).cross (b - a) = -(b - a).cross (c - a) := by
  simp only [cross, x_sub, y_sub]
  ring

/-- The point is as far from each of some points as from the others. -/
def Equidistant (p : Point α) (points : List (Point α)) : Prop :=
  ∀ q ∈ points, ∀ r ∈ points, (q - p).normSquared = (r - p).normSquared

/-- Of three points it is enough to compare two with the first. -/
theorem equidistant_iff {p a b c : Point α} :
    p.Equidistant [a, b, c] ↔
      (b - p).normSquared = (a - p).normSquared ∧ (c - p).normSquared = (a - p).normSquared := by
  constructor
  · intro h
    exact ⟨h b (by simp) a (by simp), h c (by simp) a (by simp)⟩
  · rintro ⟨h_b, h_c⟩
    -- the first point may stand for any of the three
    have h_first : ∀ q ∈ [a, b, c], (q - p).normSquared = (a - p).normSquared := by
      simp [h_b, h_c]
    intro q h_q r h_r
    rw [h_first q h_q, h_first r h_r]

/-- In which order the points are given makes no difference. -/
theorem Equidistant.of_perm {p : Point α} {points others : List (Point α)}
    (h : p.Equidistant points) (h_perm : points.Perm others) : p.Equidistant others :=
  fun q h_q r h_r => h q (h_perm.mem_iff.2 h_q) r (h_perm.mem_iff.2 h_r)

end Point

variable [LinearOrder α] [IsStrictOrderedRing α] [Scalar α] {a b c n p : Point α}
  {circle : Circle α}

namespace Circle

/-- The point lies on the circle. -/
def Meets (circle : Circle α) (p : Point α) : Prop :=
  circle.center.distance p = circle.radius

/-- The centre of the circle is on the perpendicular bisector of a segment. -/
def Bisects (circle : Circle α) (a b : Point α) : Prop :=
  nat 2 * ((b.x - a.x) * circle.center.x + (b.y - a.y) * circle.center.y) =
    b.normSquared - a.normSquared

/-- **Cramer's rule** solves the equations of two bisectors. -/
theorem bisects_of_through? (h : through? a b c = some circle) :
    circle.Bisects a b ∧ circle.Bisects a c ∧ circle.radius = circle.center.distance a := by
  -- a determinant that vanishes is less than any tolerance
  have h_det : determinant a b c ≠ 0 := by
    intro h_zero
    have h_none : through? a b c = none := by
      rw [through?_eq_none_iff, h_zero, abs_zero]
      exact tolerance_pos
    rw [h_none] at h
    cases h
  unfold through? at h
  dsimp only at h
  split at h
  · cases h
  · cases h
    -- nothing is asked of the determinant but that one may divide by it
    have h_value := determinant_eq_cross a b c
    generalize determinant a b c = d at h_det h_value
    simp only [Point.cross, Point.x_sub, Point.y_sub] at h_value
    refine ⟨?_, ?_, rfl⟩
    all_goals
      unfold Bisects Point.normSquared
      rw [nat, Nat.cast_ofNat]
      field_simp
      rw [h_value]
      ring

omit [LinearOrder α] [IsStrictOrderedRing α] [Scalar α] in
/-- The squares of the distances from a centre on the bisector are equal. -/
theorem Bisects.normSquared_eq (h : circle.Bisects a b) :
    (b - circle.center).normSquared = (a - circle.center).normSquared := by
  unfold Bisects Point.normSquared at h
  rw [nat, Nat.cast_ofNat] at h
  simp only [Point.normSquared, Point.x_sub, Point.y_sub]
  linear_combination -h

/-- The centre is as far from each of the three points as from the others. -/
theorem equidistant_of_through? (h : through? a b c = some circle) :
    circle.center.Equidistant [a, b, c] := by
  obtain ⟨h_b, h_c, -⟩ := bisects_of_through? h
  exact Point.equidistant_iff.2 ⟨h_b.normSquared_eq, h_c.normSquared_eq⟩

section Meets

variable [ExactLength α]

omit [IsStrictOrderedRing α] in
/-- The square of the distance is that of the radius. -/
theorem Meets.normSquared (h : circle.Meets p) :
    (p - circle.center).normSquared = circle.radius * circle.radius := by
  rw [← h, ← Point.length_mul_self]
  rfl

/-- A point is as far from the centre as another one if the centre is on the bisector of the two. -/
theorem Bisects.distance_eq (h : circle.Bisects a b) :
    circle.center.distance b = circle.center.distance a :=
  Point.length_eq_length h.normSquared_eq

/-- **The circle through three points** meets all three. -/
theorem meets_of_through? (h : through? a b c = some circle) :
    circle.Meets a ∧ circle.Meets b ∧ circle.Meets c := by
  obtain ⟨h_b, h_c, h_radius⟩ := bisects_of_through? h
  unfold Meets
  rw [h_radius]
  exact ⟨rfl, h_b.distance_eq, h_c.distance_eq⟩

theorem meets_of_mem_of_through? (h : through? a b c = some circle) (h_p : p ∈ [a, b, c]) :
    circle.Meets p := by
  obtain ⟨h_a, h_b, h_c⟩ := meets_of_through? h
  rcases List.mem_cons.1 h_p with rfl | h_p
  · exact h_a
  · rcases List.mem_pair.1 h_p with rfl | rfl
    · exact h_b
    · exact h_c

/-- A segment and the point that its middle is moved to turn as the move goes. -/
theorem cross_moved (h : Point.normal? a b = some n) (d : α) :
    (b - a).cross (a.midpoint b + n.scale d - a) = a.distance b * d := by
  -- the determinant of the moved middle is known, and it is twice the cross product
  have h_twice := determinant_moved h d
  rw [determinant_eq_cross, mul_assoc] at h_twice
  exact mul_left_cancel₀ two_ne_zero h_twice

end Meets

end Circle

/-! ### The only centre, in any order -/

omit [Scalar α] in
/-- **At most one point is as far from three points**, if these do not lie on a line: the way from
one such point to another is upright on two sides of the triangle, and these point in different
directions. -/
theorem Point.Equidistant.eq_of_cross_ne_zero {q : Point α} (h_p : p.Equidistant [a, b, c])
    (h_q : q.Equidistant [a, b, c]) (h_cross : (b - a).cross (c - a) ≠ 0) : p = q := by
  obtain ⟨h_pb, h_pc⟩ := equidistant_iff.1 h_p
  obtain ⟨h_qb, h_qc⟩ := equidistant_iff.1 h_q
  simp only [normSquared, cross, x_sub, y_sub] at h_pb h_pc h_qb h_qc h_cross
  have h_b : (b.x - a.x) * (p.x - q.x) + (b.y - a.y) * (p.y - q.y) = 0 := by
    linear_combination (h_qb - h_pb) / 2
  have h_c : (c.x - a.x) * (p.x - q.x) + (c.y - a.y) * (p.y - q.y) = 0 := by
    linear_combination (h_qc - h_pc) / 2
  -- the two equations determine each coordinate of the way, which is zero
  have h_x : p.x - q.x = 0 := by
    apply (mul_eq_zero.1 _).resolve_left h_cross
    linear_combination (c.y - a.y) * h_b - (b.y - a.y) * h_c
  have h_y : p.y - q.y = 0 := by
    apply (mul_eq_zero.1 _).resolve_left h_cross
    linear_combination (b.x - a.x) * h_c - (c.x - a.x) * h_b
  calc p = ⟨p.x, p.y⟩ := rfl
    _ = ⟨q.x, q.y⟩ := by rw [sub_eq_zero.1 h_x, sub_eq_zero.1 h_y]

namespace Circle

variable {q r : Point α}

omit [IsStrictOrderedRing α] [Scalar α] in
/-- The determinant of the three points in another order is the same but for its sign. -/
theorem abs_determinant_of_perm (h : [p, q, r].Perm [a, b, c]) :
    |determinant p q r| = |determinant a b c| := by
  have h_swap : ∀ x y z : Point α, |determinant x z y| = |determinant x y z| := by
    intro x y z
    rw [determinant_eq_cross, determinant_eq_cross, Point.cross_swap, mul_neg, abs_neg]
  have h_rotate : |determinant b c a| = |determinant a b c| := by
    rw [determinant_eq_cross, determinant_eq_cross, Point.cross_rotate]
  have h_rotate' : |determinant c a b| = |determinant a b c| := by
    rw [determinant_eq_cross, determinant_eq_cross, ← Point.cross_rotate]
  have h_orders : [p, q, r] ∈ [[a, b, c], [b, a, c], [b, c, a], [a, c, b], [c, a, b], [c, b, a]] :=
    List.mem_permutations'.2 h
  simp only [List.mem_cons, List.cons.injEq, List.not_mem_nil, and_true, or_false] at h_orders
  -- two of the other orders are turns of the triangle, and three are turns of its mirror image
  rcases h_orders with ⟨h_p, h_q, h_r⟩ | ⟨h_p, h_q, h_r⟩ | ⟨h_p, h_q, h_r⟩ | ⟨h_p, h_q, h_r⟩ |
    ⟨h_p, h_q, h_r⟩ | ⟨h_p, h_q, h_r⟩
  all_goals rw [h_p, h_q, h_r]
  · exact (h_swap b c a).trans h_rotate
  · exact h_rotate
  · exact h_swap a b c
  · exact h_rotate'
  · exact (h_swap c a b).trans h_rotate'

omit [Scalar α] in
/-- Three points that have a circle do not lie on a line. -/
theorem cross_ne_zero_of_tolerance_le (h : tolerance ≤ |determinant a b c|) :
    (b - a).cross (c - a) ≠ 0 := by
  intro h_zero
  rw [determinant_eq_cross, h_zero, mul_zero, abs_zero] at h
  exact absurd tolerance_pos (not_lt.2 h)

/-- Where there is a circle its centre is the only point that is as far from all three points. -/
theorem equidistant_iff_of_through? (h : through? a b c = some circle) :
    p.Equidistant [a, b, c] ↔ p = circle.center := by
  have h_center := equidistant_of_through? h
  have h_cross : (b - a).cross (c - a) ≠ 0 := by
    apply cross_ne_zero_of_tolerance_le
    rw [← not_lt, ← through?_eq_none_iff, h]
    exact Option.some_ne_none circle
  constructor
  · intro h_p
    exact h_p.eq_of_cross_ne_zero h_center h_cross
  · rintro rfl
    exact h_center

variable [ExactLength α]

/-- **The order of the points makes no difference.** There is a circle in both orders or in none;
both centres are the one point as far from all three, and both radii the one distance. -/
theorem through?_of_perm (h : [p, q, r].Perm [a, b, c]) : through? p q r = through? a b c := by
  have h_none : through? p q r = none ↔ through? a b c = none := by
    rw [through?_eq_none_iff, through?_eq_none_iff, abs_determinant_of_perm h]
  -- the two orders have circles together, and where they do the circles agree in both their parts
  cases h_other : through? p q r with
  | none => exact (h_none.1 h_other).symm
  | some circle' =>
    cases h_circle : through? a b c with
    | none =>
      rw [h_none.2 h_circle] at h_other
      cases h_other
    | some circle =>
      have h_center : circle'.center = circle.center :=
        (equidistant_iff_of_through? h_circle).1 ((equidistant_of_through? h_other).of_perm h)
      -- the first point of the one order is some point of the other
      have h_meets : circle.Meets p :=
        meets_of_mem_of_through? h_circle (h.mem_iff.1 List.mem_cons_self)
      have h_radius : circle'.radius = circle.radius :=
        calc circle'.radius = circle'.center.distance p := (bisects_of_through? h_other).2.2
          _ = circle.center.distance p := by rw [h_center]
          _ = circle.radius := h_meets
      show some (⟨circle'.center, circle'.radius⟩ : Circle α) = some ⟨circle.center, circle.radius⟩
      rw [h_center, h_radius]

/-- **The circle through three points.** There is none exactly when twice the cross product of two
sides is less than a billionth, whatever its sign. Otherwise the centre is as far from each of the
three points as from the others, and is the only such point; the radius is that distance. In every
order of the points the circle is the same, or there is none. -/
theorem through?_exact (a b c : Point α) :
    (through? a b c = none ↔ 2 * |(b - a).cross (c - a)| < 1 / 10 ^ 9) ∧
    (∀ circle, through? a b c = some circle →
      (∀ p : Point α, p.Equidistant [a, b, c] ↔ p = circle.center) ∧
      ∀ p ∈ [a, b, c], circle.center.distance p = circle.radius ∧
        circle.radius * circle.radius = (p - circle.center).normSquared) ∧
    ∀ p q r : Point α, [p, q, r].Perm [a, b, c] → through? p q r = through? a b c := by
  refine ⟨?_, ?_, fun p q r h => through?_of_perm h⟩
  · have h_tolerance : (tolerance : α) = 1 / 10 ^ 9 := by
      unfold tolerance
      norm_num
    rw [through?_eq_none_iff, determinant_eq_cross, abs_mul, abs_of_pos zero_lt_two, h_tolerance]
  · intro circle h
    refine ⟨fun p => equidistant_iff_of_through? h, fun p h_p => ?_⟩
    have h_meets := meets_of_mem_of_through? h h_p
    exact ⟨h_meets, h_meets.normSquared.symm⟩

/-- The corners of a right triangle, with the right angle first or last, have the circle over the
longest side. -/
theorem through?_exact_right_triangle :
    ¬ 2 * |((⟨6, 0⟩ : Point ℝ) - ⟨0, 0⟩).cross (⟨0, 8⟩ - ⟨0, 0⟩)| < 1 / 10 ^ 9 ∧
      (⟨3, 4⟩ : Point ℝ).Equidistant [⟨0, 0⟩, ⟨6, 0⟩, ⟨0, 8⟩] ∧
      [(⟨6, 0⟩ : Point ℝ), ⟨0, 8⟩, ⟨0, 0⟩].Perm [⟨0, 0⟩, ⟨6, 0⟩, ⟨0, 8⟩] ∧
      through? (⟨6, 0⟩ : Point ℝ) ⟨0, 8⟩ ⟨0, 0⟩ = some ⟨⟨3, 4⟩, 5⟩ := by
  have h_large : ¬ 2 * |((⟨6, 0⟩ : Point ℝ) - ⟨0, 0⟩).cross (⟨0, 8⟩ - ⟨0, 0⟩)| < 1 / 10 ^ 9 := by
    norm_num [Point.cross]
  have h_middle : (⟨3, 4⟩ : Point ℝ).Equidistant [⟨0, 0⟩, ⟨6, 0⟩, ⟨0, 8⟩] := by
    rw [Point.equidistant_iff]
    norm_num [Point.normSquared]
  have h_perm : [(⟨6, 0⟩ : Point ℝ), ⟨0, 8⟩, ⟨0, 0⟩].Perm [⟨0, 0⟩, ⟨6, 0⟩, ⟨0, 8⟩] :=
    @List.perm_append_comm (Point ℝ) [⟨6, 0⟩, ⟨0, 8⟩] [⟨0, 0⟩]
  obtain ⟨h_none, h_some, h_same⟩ := through?_exact (⟨0, 0⟩ : Point ℝ) ⟨6, 0⟩ ⟨0, 8⟩
  obtain ⟨circle, h_circle⟩ := Option.ne_none_iff_exists'.1 fun h => h_large (h_none.1 h)
  obtain ⟨h_only, h_meets⟩ := h_some circle h_circle
  have h_center : ⟨3, 4⟩ = circle.center := (h_only ⟨3, 4⟩).1 h_middle
  obtain ⟨h_distance, h_square⟩ := h_meets ⟨0, 0⟩ List.mem_cons_self
  -- the square of the radius is that of three and that of four
  have h_radius : circle.radius = 5 := by
    have h_nonneg : 0 ≤ circle.radius := h_distance ▸ Point.length_nonneg _
    have h_five : circle.radius * circle.radius = 5 * 5 := by
      rw [h_square, ← h_center]
      norm_num [Point.normSquared]
    exact (mul_self_inj h_nonneg (by norm_num)).1 h_five
  refine ⟨h_large, h_middle, h_perm, ?_⟩
  rw [h_same _ _ _ h_perm, h_circle]
  show some (⟨circle.center, circle.radius⟩ : Circle ℝ) = _
  rw [← h_center, h_radius]

end Circle

end RingDiagram
