import Mathlib.Analysis.SpecialFunctions.Trigonometric.Bounds
import RingDiagram.Layout.Ring
import RingDiagram.Proofs.Geometry.Exact

/-!
# Spacing of slots

How far two slots of a ring are from each other, in real numbers. The distance of two points of a
circle is the chord of the angle between them (`distance_onCircle`), and up to a right angle a sine
is at least its share of it, so different slots are at least `4 / slots` radii apart
(`le_distance_slotPosition`).
-/

namespace RingDiagram

open Real

/-- The chord between two points of a circle. -/
theorem distance_onCircle (center : Point ℝ) (radius s t : ℝ) :
    (center + (Point.onUnitCircle s).scale radius).distance
      (center + (Point.onUnitCircle t).scale radius) = 2 * |radius| * |sin ((t - s) / 2)| := by
  have h_cos : cos t - cos s = -2 * sin ((t + s) / 2) * sin ((t - s) / 2) := cos_sub_cos t s
  have h_sin : sin t - sin s = 2 * sin ((t - s) / 2) * cos ((t + s) / 2) := sin_sub_sin t s
  have h_unit := sin_sq_add_cos_sq ((t + s) / 2)
  -- both sides are lengths, so their squares may be compared
  refine (mul_self_inj (Point.length_nonneg _) (by positivity)).1 ?_
  have h_right : 2 * |radius| * |sin ((t - s) / 2)| * (2 * |radius| * |sin ((t - s) / 2)|) =
      4 * (radius * radius) * (sin ((t - s) / 2) * sin ((t - s) / 2)) := by
    rw [← abs_mul_abs_self radius, ← abs_mul_abs_self (sin ((t - s) / 2))]
    ring
  rw [Point.length_mul_self, h_right]
  calc _ = radius * radius * ((cos t - cos s) * (cos t - cos s) +
        (sin t - sin s) * (sin t - sin s)) := by
        simp only [Point.normSquared, Point.onUnitCircle, Point.x_sub, Point.y_sub, Point.x_add,
          Point.y_add, Point.x_scale, Point.y_scale, Scalar.cos, Scalar.sin]
        ring
    _ = _ := by
        rw [h_cos, h_sin]
        linear_combination 4 * (radius * radius) * (sin ((t - s) / 2) * sin ((t - s) / 2)) * h_unit

/-- The chord between two slots. -/
theorem distance_slotPosition (slots i j : Nat) (radius : ℝ) (center : Point ℝ) :
    (slotPosition slots radius center i).distance (slotPosition slots radius center j) =
      2 * |radius| * |sin (π * (j - i) / slots)| := by
  -- half of the angle between two slots is their share of half a turn
  have h_angle : ((slotAngle slots j : ℝ) - slotAngle slots i) / 2 = π * (j - i) / slots := by
    change ((2 : ℕ) * π * (j : ℝ) / slots - _ - ((2 : ℕ) * π * (i : ℝ) / slots - _)) / 2 = _
    push_cast
    ring
  rw [slotPosition, slotPosition, distance_onCircle, h_angle]

/-- A proper part of half a turn has a sine that is not too small. -/
theorem two_le_mul_sin {k slots : Nat} (h_pos : 0 < k) (h_lt : k < slots) :
    2 ≤ slots * sin (π * k / slots) := by
  have h_slots : (0 : ℝ) < slots := by exact_mod_cast h_pos.trans h_lt
  -- up to a right angle the sine lies above its chord
  have h_half : ∀ m : Nat, 0 < m → 2 * m ≤ slots → 2 ≤ slots * sin (π * m / slots) := by
    intro m h_m h_le
    have h_one : (1 : ℝ) ≤ m := by exact_mod_cast h_m
    have h_right : (2 * m : ℝ) ≤ slots := by exact_mod_cast h_le
    have h_angle : π * m / slots ≤ π / 2 := by
      rw [div_le_div_iff₀ h_slots two_pos]
      nlinarith [pi_pos]
    have h_sin := mul_le_sin (by positivity) h_angle
    calc (2 : ℝ) ≤ 2 * m := by linarith
      _ = slots * (2 / π * (π * m / slots)) := by field_simp
      _ ≤ slots * sin (π * m / slots) := by gcongr
  by_cases h_le : 2 * k ≤ slots
  · exact h_half k h_pos h_le
  · -- beyond it the sine is that of the rest
    have h_rest := h_half (slots - k) (by omega) (by omega)
    rw [Nat.cast_sub h_lt.le] at h_rest
    have h_angle : π * (slots - k) / slots = π - π * k / slots := by field_simp
    rwa [h_angle, sin_pi_sub] at h_rest

/-- **Different slots** are apart. -/
theorem le_distance_slotPosition {slots i j : Nat} (h_i : i < slots) (h_j : j < slots)
    (h : i ≠ j) (radius : ℝ) (center : Point ℝ) :
    4 * |radius| ≤ slots *
      (slotPosition slots radius center i).distance (slotPosition slots radius center j) := by
  have h_sin : 2 ≤ slots * |sin (π * (j - i) / slots)| := by
    rcases lt_or_gt_of_ne h with h_lt | h_lt
    · -- the sine of the angle is positive if the second slot comes later
      have h_two := two_le_mul_sin (k := j - i) (by omega) (by omega : j - i < slots)
      rw [Nat.cast_sub h_lt.le] at h_two
      exact h_two.trans (by gcongr; exact le_abs_self _)
    · -- and negative if it comes earlier
      have h_two := two_le_mul_sin (k := i - j) (by omega) (by omega : i - j < slots)
      rw [Nat.cast_sub h_lt.le] at h_two
      have h_neg : sin (π * (j - i) / slots) = -sin (π * (i - j) / slots) := by
        rw [← sin_neg]
        ring_nf
      rw [h_neg, abs_neg]
      exact h_two.trans (by gcongr; exact le_abs_self _)
  rw [distance_slotPosition]
  nlinarith [abs_nonneg radius]

end RingDiagram
