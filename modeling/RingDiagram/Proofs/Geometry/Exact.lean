import Mathlib.Algebra.Order.Field.Basic
import Mathlib.Analysis.SpecialFunctions.Complex.Arg
import Mathlib.Tactic.FieldSimp
import Mathlib.Tactic.LinearCombination
import RingDiagram.Geometry.Circle

/-!
# Exact geometry

What the formulas of the geometry say when numbers are exact: in an ordered field in which every
vector has a length (`ExactLength`). Nothing is asked of sines, cosines and angles.

A length is known by its square and its sign, so two of them are compared by their squares
(`Point.length_eq_length`). The rest is about one frame, that of a segment and its normal: the
normal has length one (`Point.length_of_normal?`) and stands upright on the segment
(`Point.upright_of_normal?`). Moving the middle of the segment along it leads

* to a point that is as far from one end as from the other (`Point.distance_moved`), and to another
  point for another move (`Point.moved_injective`);
* away from the line through the ends, as far as the move goes (`Circle.determinant_moved`). So it
  is known when there is a circle through the two ends and the moved middle
  (`Circle.through?_moved_eq_none_iff`).

The real numbers are scalars of this kind.
-/

namespace RingDiagram

open Scalar

/-- The length of a vector is the number, not negative, whose square is the sum of the squares of
the coordinates. -/
class ExactLength (α : Type) [Field α] [LinearOrder α] [Scalar α] : Prop where
  length_nonneg (x y : α) : 0 ≤ Scalar.length x y
  length_mul_self (x y : α) : Scalar.length x y * Scalar.length x y = x * x + y * y

/-- The real numbers are scalars, and all of them are finite. -/
noncomputable instance Scalar.real : Scalar ℝ where
  pi := Real.pi
  length x y := √(x * x + y * y)
  sin := Real.sin
  cos := Real.cos
  angle x y := Complex.arg ⟨x, y⟩
  isFinite _ := true

instance ExactLength.real : ExactLength ℝ where
  length_nonneg _ _ := Real.sqrt_nonneg _
  length_mul_self x y :=
    Real.mul_self_sqrt (add_nonneg (mul_self_nonneg x) (mul_self_nonneg y))

variable {α : Type} [Field α] [LinearOrder α]

namespace Point

omit [LinearOrder α] in
/-- A point that is not moved stays where it is. -/
theorem add_scale_zero (p n : Point α) : p + n.scale 0 = p := by
  change (⟨p.x + n.x * 0, p.y + n.y * 0⟩ : Point α) = p
  rw [mul_zero, mul_zero, add_zero, add_zero]

section Length

variable [Scalar α] {n p : Point α}

/-- The vector over its length. -/
def unit (p : Point α) : Point α :=
  ⟨p.x / p.length, p.y / p.length⟩

/-- The dot product of two vectors: positive when they lie within a right angle of each other. -/
def dot (p q : Point α) : α :=
  p.x * q.x + p.y * q.y

/-- The direction of a vector is the vector over its length. -/
theorem direction?_eq_some_iff :
    p.direction? = some n ↔
      epsilon < p.length ∧ n = ⟨p.x / p.length, p.y / p.length⟩ := by
  unfold direction?
  dsimp only
  split
  · next h => simp [h, eq_comm]
  · next h => simp [h]

/-- A vector that is not too short has a direction. -/
theorem direction?_eq_unit (h : epsilon < p.length) : p.direction? = some p.unit :=
  direction?_eq_some_iff.2 ⟨h, rfl⟩

variable [ExactLength α]

theorem length_nonneg (p : Point α) : 0 ≤ p.length :=
  ExactLength.length_nonneg p.x p.y

theorem length_mul_self (p : Point α) : p.length * p.length = p.normSquared :=
  ExactLength.length_mul_self p.x p.y

end Length

end Point

variable [IsStrictOrderedRing α]

namespace Scalar

theorem magnitude_eq_abs (a : α) : magnitude a = |a| := by
  unfold magnitude
  rw [nat, Nat.cast_zero]
  split
  · next h => exact (abs_of_neg h).symm
  · next h => exact (abs_of_nonneg (not_lt.1 h)).symm

theorem epsilon_pos : (0 : α) < epsilon := by
  unfold epsilon
  positivity

theorem tolerance_pos : (0 : α) < tolerance := by
  unfold tolerance
  positivity

end Scalar

variable [Scalar α] [ExactLength α] {a b n p q : Point α}

/-! ### Lengths and directions -/

namespace Point

/-- Lengths are equal when their squares are. -/
theorem length_eq_length (h : p.normSquared = q.normSquared) : p.length = q.length := by
  rw [← mul_self_inj (length_nonneg p) (length_nonneg q), length_mul_self, length_mul_self, h]

/-- The distance of two points on one level is that of their places on it. -/
theorem distance_of_level (h : a.y = b.y) : a.distance b = |b.x - a.x| := by
  -- both sides are not negative, so they are compared by their squares
  refine (mul_self_inj (length_nonneg (b - a)) (abs_nonneg _)).1 ?_
  rw [abs_mul_abs_self, length_mul_self]
  simp [normSquared, h]

/-- A direction has length one. -/
theorem length_of_direction? (h : p.direction? = some n) : n.length = 1 := by
  obtain ⟨h_long, rfl⟩ := direction?_eq_some_iff.1 h
  have h_pos : 0 < p.length := epsilon_pos.trans h_long
  have h_square : p.length * p.length = p.x * p.x + p.y * p.y := length_mul_self p
  -- the square of the length is the sum of the squares that it is divided into
  rw [← mul_self_inj (length_nonneg _) zero_le_one, length_mul_self, normSquared]
  field_simp
  linear_combination -h_square

/-- The way back is as long as the way there. -/
theorem distance_comm (a b : Point α) : a.distance b = b.distance a := by
  apply length_eq_length
  simp only [normSquared, x_sub, y_sub]
  ring

/-- The way back has the opposite direction. -/
theorem unit_sub_comm (a b : Point α) : (a - b).unit = (b - a).unit.scale (-1) := by
  have h_length : (a - b).length = (b - a).length := distance_comm b a
  simp only [unit, scale, h_length, x_sub, y_sub, mk.injEq]
  constructor
  all_goals ring

/-- A vector and its direction have the length of the vector as their dot product. -/
theorem dot_unit (p : Point α) : p.unit.dot p = p.length := by
  -- the product of a vector with itself is the square of its length
  have h_square : p.length * p.length = p.x * p.x + p.y * p.y := length_mul_self p
  calc p.unit.dot p = (p.x * p.x + p.y * p.y) / p.length := by
        simp only [dot, unit]
        ring
    _ = p.length * p.length / p.length := by rw [h_square]
    _ = p.length := mul_self_div_self p.length

/-- The normal of a segment is the segment over its length, turned to the right. -/
theorem normal?_eq_some_iff :
    normal? a b = some n ↔
      epsilon < a.distance b ∧
        n = ⟨-(b.y - a.y) / a.distance b, (b.x - a.x) / a.distance b⟩ := by
  -- the segment that is turned to the right is as long as it was
  have h_length : (⟨-(b - a).y, (b - a).x⟩ : Point α).length = a.distance b := by
    apply length_eq_length
    unfold normSquared
    ring
  unfold normal?
  rw [direction?_eq_some_iff, h_length]
  rfl

/-! ### The frame of a segment -/

section Normal

variable (h : normal? a b = some n)
include h

theorem distance_pos_of_normal? : 0 < a.distance b :=
  epsilon_pos.trans (normal?_eq_some_iff.1 h).1

theorem length_of_normal? : n.length = 1 :=
  length_of_direction? h

/-- The normal stands upright on the segment. -/
theorem upright_of_normal? : n.x * (b.x - a.x) + n.y * (b.y - a.y) = 0 := by
  obtain ⟨-, rfl⟩ := normal?_eq_some_iff.1 h
  ring

/-- **The moved middle lies on the perpendicular bisector**: it is as far from one end as from the
other. -/
theorem distance_moved (d : α) :
    (a.midpoint b + n.scale d).distance a = (a.midpoint b + n.scale d).distance b := by
  have h_upright := upright_of_normal? h
  apply length_eq_length
  simp only [normSquared, midpoint, x_sub, y_sub, x_add, y_add, x_scale, y_scale, nat,
    Nat.cast_ofNat]
  -- the squares differ by what the move and the segment have in common, which is nothing
  linear_combination 2 * d * h_upright

/-- **Different moves lead to different points**, as the normal does not vanish. -/
theorem moved_injective {d d' : α}
    (h_moved : a.midpoint b + n.scale d = a.midpoint b + n.scale d') : d = d' := by
  -- the square of the normal is one
  have h_unit : n.x * n.x + n.y * n.y = n.length * n.length := (length_mul_self n).symm
  rw [length_of_normal? h, mul_one] at h_unit
  have h_x : n.x * d = n.x * d' := by simpa using congrArg Point.x h_moved
  have h_y : n.y * d = n.y * d' := by simpa using congrArg Point.y h_moved
  -- the difference of the moves, times the square of the normal, is what the coordinates differ by
  linear_combination n.x * h_x + n.y * h_y - (d - d') * h_unit

end Normal

end Point

/-! ### The circle through the ends of a segment and its moved middle -/

namespace Circle

omit [ExactLength α] in
/-- There is no circle through three points exactly when they are too close to a line. -/
theorem through?_eq_none_iff {c : Point α} :
    through? a b c = none ↔ |determinant a b c| < tolerance := by
  unfold through?
  dsimp only
  -- the test is made with the size of the determinant
  rw [magnitude_eq_abs]
  split
  · next h_small => exact iff_of_true rfl h_small
  · next h_large => exact iff_of_false (Option.some_ne_none _) h_large

variable (h : Point.normal? a b = some n)
include h

/-- The middle is moved off the line by as much as the move goes. -/
theorem determinant_moved (d : α) :
    determinant a b (a.midpoint b + n.scale d) = 2 * a.distance b * d := by
  have h_pos := Point.distance_pos_of_normal? h
  obtain ⟨-, rfl⟩ := Point.normal?_eq_some_iff.1 h
  have h_square : a.distance b * a.distance b =
      (b.x - a.x) * (b.x - a.x) + (b.y - a.y) * (b.y - a.y) := Point.length_mul_self (b - a)
  simp only [determinant, Point.midpoint, Point.x_add, Point.y_add, Point.x_scale, Point.y_scale,
    nat, Nat.cast_ofNat]
  -- the normal times the length is the segment, and the segment times itself the square of its
  -- length
  field_simp
  linear_combination -2 * d * h_square

/-- **There is no circle** exactly when the segment and the move are too short together. -/
theorem through?_moved_eq_none_iff (d : α) :
    through? a b (a.midpoint b + n.scale d) = none ↔ 2 * a.distance b * |d| < tolerance := by
  have h_pos := Point.distance_pos_of_normal? h
  rw [through?_eq_none_iff, determinant_moved h, abs_mul, abs_of_pos (by positivity)]

end Circle

end RingDiagram
