import RingDiagram.Proofs.Geometry.Circumcircle

/-!
# Circles that touch in one point

The circles that touch each other in a point `p` have their centres on one line through `p`. Given
the direction `u` of that line, such a circle is known by how far along it the centre lies:
`Circle.touching p u k`, on the one side for a positive `k` and on the other for a negative one.

All that is said of these circles follows from the power of a point, which is linear in `k`
(`Circle.power_touching`). So two of them meet in `p` alone (`Circle.eq_of_meets_touching`), discs
on different sides of `p` have only `p` in common (`Circle.eq_of_inside_touching`), and of discs on
one side each lies in the next (`Circle.inside_touching_mono`).
-/

namespace RingDiagram

open Scalar

variable {α : Type} [Field α] [LinearOrder α] [Scalar α]

namespace Circle

/-- The point lies on the circle or inside it. -/
def Inside (c : Circle α) (q : Point α) : Prop :=
  c.center.distance q ≤ c.radius

theorem Meets.inside {c : Circle α} {q : Point α} (h : c.Meets q) : c.Inside q :=
  h.le

/-- The power of a point: the square of its distance from the centre, less that of the radius. -/
def power (c : Circle α) (q : Point α) : α :=
  (q - c.center).normSquared - c.radius * c.radius

/-- The circle through `p` with its centre `k` along `u` from there. -/
def touching (p u : Point α) (k : α) : Circle α :=
  ⟨p + u.scale k, |k|⟩

end Circle

namespace Point

variable {p q : Point α}

omit [Scalar α] in
/-- Only from itself does a point differ by nothing. -/
theorem eq_of_normSquared_sub [IsStrictOrderedRing α] (h : (q - p).normSquared ≤ 0) : q = p := by
  obtain ⟨h_x, h_y⟩ : q.x - p.x = 0 ∧ q.y - p.y = 0 := by
    -- a sum of squares vanishes only if both of them do
    have h_sum : (q.x - p.x) * (q.x - p.x) + (q.y - p.y) * (q.y - p.y) ≤ 0 := h
    have h_x := mul_self_nonneg (q.x - p.x)
    have h_y := mul_self_nonneg (q.y - p.y)
    constructor
    all_goals exact mul_self_eq_zero.1 (by linarith)
  obtain ⟨x, y⟩ := p
  obtain ⟨x', y'⟩ := q
  rw [Point.mk.injEq]
  exact ⟨sub_eq_zero.1 h_x, sub_eq_zero.1 h_y⟩

end Point

variable [IsStrictOrderedRing α] [ExactLength α] {c : Circle α} {p q u : Point α} {k k' : α}

namespace Circle

/-! ### The power of a point -/

theorem meets_iff (h : 0 ≤ c.radius) : c.Meets q ↔ c.power q = 0 := by
  rw [power, ← Point.length_mul_self, sub_eq_zero, mul_self_inj (Point.length_nonneg _) h]
  rfl

theorem inside_iff (h : 0 ≤ c.radius) : c.Inside q ↔ c.power q ≤ 0 := by
  rw [power, ← Point.length_mul_self, sub_nonpos,
    ← mul_self_le_mul_self_iff (Point.length_nonneg _) h]
  rfl

end Circle

section Unit

variable (h : u.length = 1)
include h

omit [IsStrictOrderedRing α] in
theorem Point.normSquared_eq_one : u.normSquared = 1 := by
  rw [← Point.length_mul_self, h, mul_one]

/-- Points along a unit vector are apart as far as they are along it. -/
theorem Point.distance_along (k k' : α) :
    (p + u.scale k).distance (p + u.scale k') = |k' - k| := by
  -- a step along the unit vector is as long as its factor
  have h_unit : u.x * u.x + u.y * u.y = 1 := Point.normSquared_eq_one h
  refine (mul_self_inj (Point.length_nonneg _) (abs_nonneg _)).1 ?_
  rw [abs_mul_abs_self, Point.length_mul_self]
  simp only [normSquared, x_sub, y_sub, x_add, y_add, x_scale, y_scale]
  linear_combination (k' - k) * (k' - k) * h_unit

namespace Circle

/-- **The power of a point** with respect to a circle that touches in `p`. -/
theorem power_touching (k : α) :
    (touching p u k).power q = (q - p).normSquared - 2 * k * u.dot (q - p) := by
  have h_unit : u.x * u.x + u.y * u.y = 1 := Point.normSquared_eq_one h
  -- in the power of the point the square of the step and that of the radius cancel
  rw [power, touching, abs_mul_abs_self]
  simp only [Point.normSquared, Point.dot, Point.x_sub, Point.y_sub, Point.x_add, Point.y_add,
    Point.x_scale, Point.y_scale]
  linear_combination k * k * h_unit

theorem meets_touching_iff (k : α) :
    (touching p u k).Meets q ↔ (q - p).normSquared = 2 * k * u.dot (q - p) := by
  rw [meets_iff (abs_nonneg k), power_touching h, sub_eq_zero]

theorem inside_touching_iff (k : α) :
    (touching p u k).Inside q ↔ (q - p).normSquared ≤ 2 * k * u.dot (q - p) := by
  rw [inside_iff (abs_nonneg k), power_touching h, sub_nonpos]

theorem meets_touching (k : α) : (touching p u k).Meets p := by
  rw [meets_touching_iff h]
  simp [Point.normSquared, Point.dot]

/-- The point opposite the one that is touched. -/
theorem meets_touching_opposite (k : α) : (touching p u k).Meets (p + u.scale (k * 2)) := by
  unfold Meets touching
  -- the opposite point is two steps away, and the centre one
  rw [Point.distance_along h, mul_two, add_sub_cancel_right]

/-! ### How touching circles lie -/

/-- **Two circles** that touch in a point have no other point in common. -/
theorem eq_of_meets_touching (h_ne : k ≠ k') (h_meets : (touching p u k).Meets q)
    (h_meets' : (touching p u k').Meets q) : q = p := by
  rw [meets_touching_iff h] at h_meets h_meets'
  -- the two powers differ by a multiple of this product
  have h_dot : u.dot (q - p) = 0 := by
    have h_product : (k - k') * u.dot (q - p) = 0 := by linear_combination (h_meets' - h_meets) / 2
    exact (mul_eq_zero.1 h_product).resolve_left (sub_ne_zero.2 h_ne)
  apply Point.eq_of_normSquared_sub
  rw [h_meets, h_dot, mul_zero]

/-- **Two discs** that touch from either side have no other point in common. -/
theorem eq_of_inside_touching (h_k : k < 0) (h_k' : 0 < k') (h_in : (touching p u k).Inside q)
    (h_in' : (touching p u k').Inside q) : q = p := by
  rw [inside_touching_iff h] at h_in h_in'
  apply Point.eq_of_normSquared_sub
  -- the point is on this side of `p` or on the other, and either way too far from a centre
  rcases le_total (u.dot (q - p)) 0 with h_dot | h_dot
  · exact h_in'.trans (mul_nonpos_of_nonneg_of_nonpos (by positivity) h_dot)
  · exact h_in.trans (mul_nonpos_of_nonpos_of_nonneg (by linarith) h_dot)

/-- **A disc** that touches from one side lies in every larger one that touches from there. -/
theorem inside_touching_mono (h_k : 0 < k) (h_le : k ≤ k') (h_in : (touching p u k).Inside q) :
    (touching p u k').Inside q := by
  -- the point is not on the other side, where the disc could not have it
  rw [inside_touching_iff h] at h_in ⊢
  have h_dot : 0 ≤ u.dot (q - p) := by
    have h_square : 0 ≤ (q - p).normSquared :=
      add_nonneg (mul_self_nonneg _) (mul_self_nonneg _)
    exact nonneg_of_mul_nonneg_right (h_square.trans h_in) (by positivity)
  exact h_in.trans (by gcongr)

/-- The circle over the segment from `p` to a point along `u`. -/
theorem onDiameter_along (k : α) :
    onDiameter p (p + u.scale (k * 2)) = touching p u k := by
  have h_distance : p.distance (p + u.scale (k * 2)) = |k * 2| := by
    have h_along := Point.distance_along h (p := p) 0 (k * 2)
    rwa [Point.add_scale_zero, sub_zero] at h_along
  -- halfway along the segment is half the step
  have h_center : p.midpoint (p + u.scale (k * 2)) = p + u.scale k := by
    change (⟨_, _⟩ : Point α) = ⟨p.x + u.x * k, p.y + u.y * k⟩
    simp only [Point.x_add, Point.y_add, Point.x_scale, Point.y_scale, nat, Nat.cast_ofNat,
      Point.mk.injEq]
    constructor
    all_goals ring
  rw [onDiameter, touching, h_distance, h_center, abs_mul, nat, Nat.cast_ofNat, abs_two,
    mul_div_cancel_right₀ _ two_ne_zero]

end Circle

end Unit

end RingDiagram
