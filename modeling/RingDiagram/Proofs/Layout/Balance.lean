import Mathlib.Order.Bounds.Image
import RingDiagram.Proofs.Geometry.Exact
import RingDiagram.Proofs.Layout.Routing

/-!
# Odd rings are balanced

A ring with an odd number of slots reaches further above its centre than below, so its centre is
moved down by half the difference. The difference is measured on the ring around the nominal centre,
and the vertices are placed on another one. In exact numbers, and whatever sines and cosines are,
they end up as far above the middle of the surface as below.

* What is measured is right: the folds over the heights of the slots find the least and the greatest
  of them (`isLeast_least`, `isGreatest_greatest`), and moved by `balance` they are equally far from
  the middle (`balanced_balance`).
* A ring moves with its centre (`slotPositions_down`), so all vertices are where the measured slots
  were, moved by that distance.
-/

namespace RingDiagram

open Scalar

/-! ### Least and greatest -/

section Extremes

variable {α : Type} [LinearOrder α]

theorem lesser_eq_min : (lesser : α → α → α) = min := by
  -- no number of an ordered field is undefined, so the comparison decides
  funext a b
  rw [lesser, beq_self_eq_true, if_pos rfl, min_comm, min_def_lt]

theorem greater_eq_max : (greater : α → α → α) = max := by
  funext a b
  rw [greater, beq_self_eq_true, if_pos rfl, max_def_lt]

theorem isLeast_least (a : α) (rest : List α) : IsLeast {y | y ∈ a :: rest} (least a rest) := by
  -- the fold is that of the library, which has the extreme as a member and as a bound
  have h_fold : (a :: rest).min? = some (least a rest) := by
    rw [List.min?_cons', least, lesser_eq_min]
  exact List.min?_eq_some_iff.1 h_fold

theorem isGreatest_greatest (a : α) (rest : List α) :
    IsGreatest {y | y ∈ a :: rest} (greatest a rest) := by
  have h_fold : (a :: rest).max? = some (greatest a rest) := by
    rw [List.max?_cons', greatest, greater_eq_max]
  exact List.max?_eq_some_iff.1 h_fold

end Extremes

variable {α : Type} [Field α] [LinearOrder α]

/-! ### Balanced heights -/

/-- Some heights reach as far to one side of the middle as to the other: it is halfway between the
least and the greatest of them. -/
def Balanced (middle : α) (heights : List α) : Prop :=
  ∃ top bottom, IsLeast {y | y ∈ heights} top ∧ IsGreatest {y | y ∈ heights} bottom ∧
    (top + bottom) / nat 2 = middle

/-- **Heights are balanced** when they are moved by what was measured on them. -/
theorem balanced_balance [IsStrictOrderedRing α] (middle y : α) (rest : List α) :
    Balanced middle ((y :: rest).map (· + balance middle y rest)) := by
  set s := balance middle y rest with h_s
  -- moving by a number keeps the order, so the extremes are moved with the others
  have h_mono : Monotone (· + s) := add_left_mono
  have h_image : {x | x ∈ (y :: rest).map (· + s)} = (· + s) '' {x | x ∈ y :: rest} := by
    ext x
    exact List.mem_map
  refine ⟨least y rest + s, greatest y rest + s, ?top, ?bottom, ?middle⟩
  case top =>
    rw [h_image]
    exact h_mono.map_isLeast (isLeast_least y rest)
  case bottom =>
    rw [h_image]
    exact h_mono.map_isGreatest (isGreatest_greatest y rest)
  case middle =>
    rw [h_s, balance, nat, Nat.cast_ofNat]
    ring

/-! ### Rings that move -/

section Move

omit [LinearOrder α]
variable [Scalar α]

/-- The point further down. -/
def Point.down (p : Point α) (s : α) : Point α :=
  ⟨p.x, p.y + s⟩

/-- **A ring moves** with its centre. -/
theorem slotPositions_down (slots : Nat) (radius : α) (center : Point α) (s : α) :
    slotPositions slots radius (center.down s) =
      (slotPositions slots radius center).map (·.down s) := by
  unfold slotPositions
  rw [List.map_map]
  apply List.map_congr_left
  intro i _
  -- only the height of the centre enters into that of a slot, as a summand
  have h_y : center.y + s + (Point.onUnitCircle (slotAngle slots i)).y * radius =
      center.y + (Point.onUnitCircle (slotAngle slots i)).y * radius + s := add_right_comm _ _ _
  exact congrArg (Point.mk _) h_y

end Move

variable [Scalar α]

/-- An even ring stays where it is. -/
theorem balancedCenter_even {slots : Nat} (h : Even slots) (radius : α) (nominal : Point α) :
    balancedCenter slots radius nominal = nominal := by
  rw [balancedCenter, if_pos (Nat.even_iff.1 h)]

/-- **An odd ring** is moved down until its slots are balanced. -/
theorem exists_balance [IsStrictOrderedRing α] {slots : Nat} (h : Odd slots) (radius : α)
    (nominal : Point α) :
    ∃ s, balancedCenter slots radius nominal = nominal.down s ∧
      Balanced nominal.y
        ((slotPositions slots radius (nominal.down s)).map Point.y) := by
  rw [balancedCenter, if_neg (Nat.not_even_iff_odd.2 h ∘ Nat.even_iff.2)]
  cases h_heights : (slotPositions slots radius nominal).map Point.y with
  | nil =>
    -- an odd ring has slots
    rw [List.map_eq_nil_iff, ← List.length_eq_zero_iff, length_slotPositions] at h_heights
    rw [h_heights] at h
    exact absurd h (by decide)
  | cons y rest =>
    refine ⟨balance nominal.y y rest, rfl, ?_⟩
    have h_moved := balanced_balance nominal.y y rest
    -- what was measured is the ring around the nominal centre, and this is the ring that is moved
    rw [← h_heights, List.map_map] at h_moved
    rw [slotPositions_down, List.map_map]
    exact h_moved

/-- **Odd rings are balanced**, in exact numbers, with any functions for sine and cosine and a
radius of either sign. In every layout of an odd number of vertices these reach as far above the
middle of the surface as below: half the height is halfway between the least and the greatest of the
heights they are placed at. All of them are placed where the slots of the ring around the middle of
the surface are, moved down by one distance, and so is the centre. In every layout of an even number
of vertices the centre is in the middle of the surface. -/
theorem rings_balanced [IsStrictOrderedRing α] (net : Network) (settings : Settings α)
    (width height : α) (layout : Layout α)
    (h : net.layout settings width height = .ok layout) :
    (Odd net.vertices.length →
      layout.center.x = width / 2 ∧
      Balanced (height / 2) (layout.vertices.map (·.position.y)) ∧
      ∃ s, layout.center = (⟨width / 2, height / 2⟩ : Point α).down s ∧
        layout.vertices.map (·.position) =
          (slotPositions net.vertices.length settings.ringRadius
            ⟨width / 2, height / 2⟩).map (·.down s)) ∧
    (Even net.vertices.length → layout.center = ⟨width / 2, height / 2⟩) := by
  -- the vertices are in their slots, around the centre that the layout has
  have h_positions := Network.positions_of_layout h
  have h_center : layout.center = balancedCenter net.vertices.length settings.ringRadius
      ⟨width / 2, height / 2⟩ := by
    rw [Network.center_of_layout h, Network.ringCenter, nat, Nat.cast_ofNat]
  constructor
  · -- the moved centre is that of the layout, and so are the heights around it
    intro h_odd
    obtain ⟨s, h_s, h_balanced⟩ := exists_balance h_odd settings.ringRadius
      ⟨width / 2, height / 2⟩
    rw [← h_center] at h_s
    rw [← h_s, ← h_positions, List.map_map] at h_balanced
    rw [h_s, slotPositions_down] at h_positions
    refine ⟨?_, h_balanced, s, h_s, h_positions⟩
    rw [h_s]
    rfl
  · intro h_even
    rw [h_center, balancedCenter_even h_even]

/-- A network without edges. -/
private def scattered (names : List String) : Network where
  flags := {}
  vertices := names.map (⟨·, true⟩)
  edges := []
  within := by simp

private theorem exists_layout_scattered (names : List String) :
    ∃ layout, (scattered names).layout .standard (300 : ℝ) 300 = .ok layout := by
  apply Network.exists_layout
  intro bent h_bent
  cases h_bent

/-- The slots of a triangle: two on one level, and one at the top. -/
private theorem heights_triangle :
    (slotPositions 3 (100 : ℝ) ⟨150, 150⟩).map Point.y = [200, 200, 50] := by
  -- a slot of a triangle every third of a turn, the first one a twelfth below the level
  have h_angle : ∀ i : Nat, (slotAngle 3 i : ℝ) = (4 * i + 1) * (Real.pi / 6) := by
    intro i
    change (2 : ℕ) * Real.pi * (i : ℝ) / (3 : ℕ) - Real.pi * ((2 : ℕ) - (3 : ℕ)) /
      ((2 : ℕ) * (3 : ℕ)) = _
    push_cast
    ring
  have h_right : Real.sin (slotAngle 3 0) = 1 / 2 := by
    rw [h_angle, Nat.cast_zero, mul_zero, zero_add, one_mul, Real.sin_pi_div_six]
  have h_left : Real.sin (slotAngle 3 1) = 1 / 2 := by
    rw [h_angle, ← Real.sin_pi_div_six, ← Real.sin_pi_sub (Real.pi / 6)]
    congr 1
    push_cast
    ring
  have h_top : Real.sin (slotAngle 3 2) = -1 := by
    have h_up : (slotAngle 3 2 : ℝ) = Real.pi / 2 + Real.pi := by
      rw [h_angle]
      push_cast
      ring
    rw [h_up, Real.sin_add_pi, Real.sin_pi_div_two]
  change [150 + Real.sin (slotAngle 3 0) * 100, 150 + Real.sin (slotAngle 3 1) * 100,
    150 + Real.sin (slotAngle 3 2) * 100] = _
  rw [h_right, h_left, h_top]
  norm_num

private theorem eq_of_balanced_triangle {s : ℝ}
    (h : Balanced (300 / 2) [200 + s, 200 + s, 50 + s]) : s = 25 := by
  obtain ⟨top, bottom, h_top, h_bottom, h_half⟩ := h
  -- a move keeps the least and the greatest of the three heights
  have h_least : IsLeast {y | y ∈ [200 + s, 200 + s, 50 + s]} (50 + s) := by
    constructor
    · simp
    · norm_num [lowerBounds]
  have h_greatest : IsGreatest {y | y ∈ [200 + s, 200 + s, 50 + s]} (200 + s) := by
    constructor
    · simp
    · norm_num [upperBounds]
  rw [h_top.unique h_least, h_bottom.unique h_greatest, nat, Nat.cast_ofNat] at h_half
  linarith

/-- A triangle is moved down by 25, an even ring not at all. -/
theorem rings_balanced_triangle :
    (∃ layout : Layout ℝ, (scattered ["a", "b", "c"]).layout .standard 300 300 = .ok layout ∧
      layout.center = ⟨150, 175⟩) ∧
    ∃ layout : Layout ℝ, (scattered ["a", "b"]).layout .standard 300 300 = .ok layout ∧
      layout.center = ⟨150, 150⟩ := by
  have h_middle : (⟨300 / 2, 300 / 2⟩ : Point ℝ) = ⟨150, 150⟩ := by norm_num
  constructor
  · obtain ⟨layout, h_layout⟩ := exists_layout_scattered ["a", "b", "c"]
    obtain ⟨h_odd, -⟩ :=
      rings_balanced (scattered ["a", "b", "c"]) .standard 300 300 layout h_layout
    obtain ⟨-, h_balanced, s, h_center, h_positions⟩ := h_odd (by decide)
    rw [h_middle] at h_center h_positions
    -- the heights hang on the shift that is to be found, two below the middle and one above it
    have h_heights : layout.vertices.map (·.position.y) = [200 + s, 200 + s, 50 + s] := by
      have h_down := congrArg (List.map Point.y) h_positions
      rw [List.map_map, List.map_map] at h_down
      calc layout.vertices.map (·.position.y)
          = ((slotPositions 3 (100 : ℝ) ⟨150, 150⟩).map Point.y).map (· + s) := by
            rw [List.map_map]
            exact h_down
        _ = [200 + s, 200 + s, 50 + s] := by
            rw [heights_triangle]
            rfl
    rw [h_heights] at h_balanced
    -- the first and the last of them are as far from the middle only for one shift
    refine ⟨layout, h_layout, ?_⟩
    rw [h_center, eq_of_balanced_triangle h_balanced, Point.down]
    norm_num
  · obtain ⟨layout, h_layout⟩ := exists_layout_scattered ["a", "b"]
    obtain ⟨-, h_even⟩ := rings_balanced (scattered ["a", "b"]) .standard 300 300 layout h_layout
    exact ⟨layout, h_layout, (h_even (by decide)).trans h_middle⟩

end RingDiagram
