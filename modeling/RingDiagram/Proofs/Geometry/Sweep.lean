import Mathlib.Algebra.Order.ToIntervalMod
import RingDiagram.Proofs.Geometry.Circumcircle

/-!
# Going around a circle

Angles are real numbers here. `clockwise s t` is how far it is from the angle `s` to the angle `t`
when one goes clockwise on screen, that is in the direction of growing angles, and less than once
around. A point of a circle is passed on the way from another one to a third (`Circle.Passes`) when
it comes sooner than that.

Three points of a circle turn clockwise exactly when the second is passed on the way from the first
to the third (`Circle.passes_iff`): their cross product is a product of three sines of half angles
(`Circle.cross_eq`), of which two are never negative and the third has the sign of what is left to
go.
-/

namespace RingDiagram

open Real

/-! ### Angles -/

/-- How far it is from one angle to another, clockwise. -/
noncomputable def clockwise (s t : ℝ) : ℝ :=
  toIcoMod (add_pos pi_pos pi_pos) 0 (t - s)

theorem clockwise_nonneg (s t : ℝ) : 0 ≤ clockwise s t :=
  left_le_toIcoMod _ _ _

theorem clockwise_lt (s t : ℝ) : clockwise s t < 2 * π := by
  have h := toIcoMod_lt_right (add_pos pi_pos pi_pos) 0 (t - s)
  rw [two_mul]
  rwa [zero_add] at h

/-- The second angle is reached by going that far from the first. -/
theorem exists_clockwise (s t : ℝ) : ∃ k : ℤ, t = s + clockwise s t + k * (2 * π) := by
  refine ⟨toIcoDiv (add_pos pi_pos pi_pos) 0 (t - s), ?_⟩
  have h := self_sub_toIcoDiv_zsmul (add_pos pi_pos pi_pos) 0 (t - s)
  rw [zsmul_eq_mul] at h
  rw [two_mul]
  unfold clockwise
  linarith

theorem cos_add_clockwise (s t : ℝ) : cos (s + clockwise s t) = cos t := by
  obtain ⟨k, h⟩ := exists_clockwise s t
  conv_rhs => rw [h]
  exact (cos_add_int_mul_two_pi _ k).symm

theorem sin_add_clockwise (s t : ℝ) : sin (s + clockwise s t) = sin t := by
  obtain ⟨k, h⟩ := exists_clockwise s t
  conv_rhs => rw [h]
  exact (sin_add_int_mul_two_pi _ k).symm

/-- The cross product of two chords of the unit circle that begin in one point. -/
theorem chords_eq (s u v : ℝ) :
    (cos (s + u) - cos s) * (sin (s + v) - sin s) - (sin (s + u) - sin s) * (cos (s + v) - cos s) =
      4 * (sin (u / 2) * sin (v / 2) * sin ((v - u) / 2)) := by
  -- the point where they begin does not matter
  have h_turned : (cos (s + u) - cos s) * (sin (s + v) - sin s) -
      (sin (s + u) - sin s) * (cos (s + v) - cos s) = sin (v - u) + sin u - sin v := by
    have h_s := sin_sq_add_cos_sq s
    simp only [cos_add, sin_add, sin_sub]
    linear_combination (sin v * cos u - cos v * sin u + sin u - sin v) * h_s
  -- and what is left is a product, in halves of the angles
  have h_half : ∀ p q : ℝ, sin (2 * q - 2 * p) + sin (2 * p) - sin (2 * q) =
      4 * (sin p * sin q * sin (q - p)) := by
    intro p q
    have h_p := sin_sq_add_cos_sq p
    have h_q := sin_sq_add_cos_sq q
    simp only [sin_sub, sin_two_mul, cos_two_mul]
    linear_combination 4 * sin q * cos q * h_p - 4 * sin p * cos p * h_q
  have h_angles := h_half (u / 2) (v / 2)
  rw [mul_div_cancel₀ u two_ne_zero, mul_div_cancel₀ v two_ne_zero] at h_angles
  rw [h_turned, h_angles, sub_div]

/-! ### Points of a circle -/

variable {circle : Circle ℝ} {p first last : Point ℝ}

/-- The length and the bearing of a vector give back its coordinates. -/
theorem Point.eq_distance_mul (p center : Point ℝ) :
    p.x - center.x = center.distance p * cos (p.bearingFrom center) ∧
      p.y - center.y = center.distance p * sin (p.bearingFrom center) := by
  -- a complex number has the angle and the norm of the vector
  have h_norm : ‖(⟨p.x - center.x, p.y - center.y⟩ : ℂ)‖ = center.distance p := by
    rw [Complex.norm_def, Complex.normSq_mk]
    rfl
  rw [← h_norm]
  constructor
  · exact (Complex.norm_mul_cos_arg ⟨p.x - center.x, p.y - center.y⟩).symm
  · exact (Complex.norm_mul_sin_arg ⟨p.x - center.x, p.y - center.y⟩).symm

namespace Circle

/-- How far it is around the circle from one point to another, clockwise. -/
noncomputable def way (circle : Circle ℝ) (p q : Point ℝ) : ℝ :=
  clockwise (p.bearingFrom circle.center) (q.bearingFrom circle.center)

/-- The point is passed on the way from `first` to `last`. -/
def Passes (circle : Circle ℝ) (first last p : Point ℝ) : Prop :=
  0 < circle.way first p ∧ circle.way first p < circle.way first last

/-- A point of the circle is reached from another one by going the way between them. -/
theorem Meets.eq_way (h : circle.Meets p) (first : Point ℝ) :
    p.x = circle.center.x + circle.radius *
        cos (first.bearingFrom circle.center + circle.way first p) ∧
      p.y = circle.center.y + circle.radius *
        sin (first.bearingFrom circle.center + circle.way first p) := by
  obtain ⟨h_x, h_y⟩ := p.eq_distance_mul circle.center
  unfold way
  rw [cos_add_clockwise, sin_add_clockwise, ← h, ← h_x, ← h_y, add_sub_cancel, add_sub_cancel]
  exact ⟨rfl, rfl⟩

/-- **Three points of a circle** turn by the sines of half the ways between them. -/
theorem cross_eq (h_first : circle.Meets first) (h_last : circle.Meets last) (h : circle.Meets p) :
    (p - first).cross (last - first) =
      4 * (circle.radius * circle.radius) * (sin (circle.way first p / 2) *
        sin (circle.way first last / 2) *
          sin ((circle.way first last - circle.way first p) / 2)) := by
  obtain ⟨h_x, h_y⟩ := h.eq_way first
  obtain ⟨h_lx, h_ly⟩ := h_last.eq_way first
  obtain ⟨h_fx, h_fy⟩ := h_first.eq_way first
  -- the ends and the point stand at their ways from the first end, which has none to itself
  have h_chords := chords_eq (first.bearingFrom circle.center) (circle.way first p)
    (circle.way first last)
  have h_self : circle.way first first = 0 := by
    unfold way clockwise
    rw [sub_self]
    exact toIcoMod_apply_left _ _
  rw [h_self, add_zero] at h_fx h_fy
  simp only [Point.cross, Point.x_sub, Point.y_sub]
  rw [h_x, h_y, h_lx, h_ly, h_fx, h_fy]
  linear_combination circle.radius * circle.radius * h_chords

/-- **A point is passed** exactly when it turns clockwise with the two ends of the way. So the
points that are passed are those of the circle on one side of the line through the ends, and all
others are on the line or on its other side. -/
theorem passes_iff (h_radius : circle.radius ≠ 0) (h_first : circle.Meets first)
    (h_last : circle.Meets last) (h : circle.Meets p) :
    circle.Passes first last p ↔ 0 < (p - first).cross (last - first) := by
  have h_square : 0 < 4 * (circle.radius * circle.radius) :=
    mul_pos four_pos (mul_self_pos.2 h_radius)
  rw [cross_eq h_first h_last h, mul_pos_iff_of_pos_left h_square]
  unfold Passes
  generalize h_u : circle.way first p = u
  generalize h_v : circle.way first last = v
  have h_u0 : 0 ≤ u := h_u ▸ clockwise_nonneg _ _
  have h_v0 : 0 ≤ v := h_v ▸ clockwise_nonneg _ _
  have h_u1 : u < 2 * π := h_u ▸ clockwise_lt _ _
  have h_v1 : v < 2 * π := h_v ▸ clockwise_lt _ _
  -- half a way is less than half a turn, so its sine vanishes with it and is positive otherwise
  have h_su : 0 ≤ sin (u / 2) := sin_nonneg_of_nonneg_of_le_pi (by linarith) (by linarith)
  have h_sv : 0 ≤ sin (v / 2) := sin_nonneg_of_nonneg_of_le_pi (by linarith) (by linarith)
  constructor
  · -- all three angles are halves of ways that are not nothing, so their sines are positive
    rintro ⟨h_pos, h_lt⟩
    have h_pu : 0 < sin (u / 2) := sin_pos_of_pos_of_lt_pi (by linarith) (by linarith)
    have h_pv : 0 < sin (v / 2) := sin_pos_of_pos_of_lt_pi (by linarith) (by linarith)
    have h_left : 0 < sin ((v - u) / 2) := sin_pos_of_pos_of_lt_pi (by linarith) (by linarith)
    exact mul_pos (mul_pos h_pu h_pv) h_left
  · intro h_pos
    constructor
    · -- on the first end itself the points would not turn
      refine h_u0.lt_of_ne fun h_zero => ?_
      rw [← h_zero] at h_pos
      simp at h_pos
    · -- a point that comes later than `last` has the third sine turned around
      by_contra h_le
      have h_left : sin ((v - u) / 2) ≤ 0 :=
        sin_nonpos_of_nonpos_of_neg_pi_le (by linarith) (by linarith)
      exact absurd h_pos (not_lt.2 (mul_nonpos_of_nonneg_of_nonpos (mul_nonneg h_su h_sv) h_left))

end Circle

end RingDiagram
