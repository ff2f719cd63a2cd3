import RingDiagram.Proofs.Geometry.Spacing
import RingDiagram.Proofs.Layout.Parallel

/-!
# Edges between crowded places

When an edge has no route, in exact numbers. A loop has one, and so has an edge that is drawn as a
straight line. Any other is moved off the line between its places, and if the places or the move are
next to nothing there is no arc to draw it with (`not_hasRoute_iff`).

The places of different slots are known to be apart in real numbers, so on a ring that is not too
small every edge has a route (`hasRoute_of_mem_keptEdges`).
-/

namespace RingDiagram

open Scalar

/-! ### Without a route -/

section Exact

variable {α : Type} [Field α] [LinearOrder α] [IsStrictOrderedRing α] [Scalar α]
  {place : Nat → Point α} {bendiness : α} {bent : Edge × Bend}

/-- An edge between two vertices is moved off the straight line, and its places are too close to
have a direction from one to the other, or together with the move too close to a line. -/
structure Crowded (place : Nat → Point α) (bendiness : α) (bent : Edge × Bend) : Prop where
  notLoop : bent.1.isLoop = false
  /-- There is an earlier edge between the two vertices. -/
  later : bent.2.index ≠ 0
  bends : bendiness ≠ 0
  close : (place bent.2.drawn.source).distance (place bent.2.drawn.target) ≤ epsilon ∨
    2 * (place bent.2.drawn.source).distance (place bent.2.drawn.target) *
      |bendDisplacement bent.2.index bendiness false| < tolerance

omit [IsStrictOrderedRing α] in
/-- Without bendiness every edge has a route. -/
theorem hasRoute_of_bendiness_eq_zero (h : bendiness = 0) : HasRoute place bendiness bent := by
  refine Or.inr (Or.inl ?_)
  rw [bendDisplacement_eq, h, zero_mul, beq_iff_eq, nat, Nat.cast_zero]

/-- **An edge has no route** exactly when it is crowded. -/
theorem not_hasRoute_iff [ExactLength α] :
    ¬ HasRoute place bendiness bent ↔ Crowded place bendiness bent := by
  -- a loop has a route, and it is not crowded
  by_cases h_loop : bent.1.isLoop = true
  · refine iff_of_false (fun h => h (Or.inl h_loop)) fun h => ?_
    rw [h.notLoop] at h_loop
    cases h_loop
  rw [Bool.not_eq_true] at h_loop
  -- without bendiness an edge is not moved, and it is not crowded either
  by_cases h_bendiness : bendiness = 0
  · exact iff_of_false (fun h => h (hasRoute_of_bendiness_eq_zero h_bendiness))
      fun h => h.bends h_bendiness
  cases h_normal : Point.normal? (place bent.2.drawn.source) (place bent.2.drawn.target) with
  | some normal =>
    have h_far : epsilon < (place bent.2.drawn.source).distance (place bent.2.drawn.target) :=
      (Point.normal?_eq_some_iff.1 h_normal).1
    -- the places are apart, so the route hangs on the move
    rw [hasRoute_iff h_loop h_normal h_bendiness, not_or, not_le]
    constructor
    · rintro ⟨h_bent, h_close⟩
      exact ⟨h_loop, h_bent, h_bendiness, Or.inr h_close⟩
    · intro h
      exact ⟨h.later, h.close.resolve_left (not_le.2 h_far)⟩
  | none =>
    have h_near : (place bent.2.drawn.source).distance (place bent.2.drawn.target) ≤ epsilon := by
      rw [← not_lt]
      intro h_far
      rw [Point.normal?_eq_some_iff.2 ⟨h_far, rfl⟩] at h_normal
      cases h_normal
    -- without a normal only a straight line is left
    have h_straight : HasRoute place bendiness bent ↔ bent.2.index = 0 := by
      unfold HasRoute
      dsimp only
      rw [h_loop, h_normal, beq_iff_eq, nat, Nat.cast_zero,
        bendDisplacement_eq_zero_iff h_bendiness]
      simp
    rw [h_straight]
    constructor
    · intro h_bent
      exact ⟨h_loop, h_bent, h_bendiness, Or.inl h_near⟩
    · intro h
      exact h.later

end Exact

/-! ### On a ring of some size -/

/-- Edges between two vertices are drawn between two slots. -/
theorem source_ne_target_of_mem_keptEdges {simple : Bool} {edges : List Edge} {bent : Edge × Bend}
    (h : bent ∈ keptEdges simple edges) (h_loop : bent.1.isLoop = false) :
    bent.2.drawn.source ≠ bent.2.drawn.target := by
  obtain ⟨earlier, h_after⟩ := exists_earlier_of_mem_zip_bends (List.mem_of_mem_filter h)
  have h_ne : bent.1.source ≠ bent.1.target := by
    intro h_eq
    rw [Edge.isLoop, h_eq, beq_self_eq_true] at h_loop
    cases h_loop
  -- the drawn edge runs one way or the other between the same two slots
  rw [h_after]
  change (firstMate bent.1 earlier).source ≠ (firstMate bent.1 earlier).target
  rcases firstMate_cases bent.1 earlier with h_same | h_reverse
  · rw [h_same]
    exact h_ne
  · rw [h_reverse]
    exact h_ne.symm

/-- A ring of some radius has room for the routes of edges with some bendiness: its slots are
further apart than next to nothing, and so are they and the moves of edges together. -/
structure Roomy (slots : Nat) (radius bendiness : ℝ) : Prop where
  apart : slots * epsilon < 4 * |radius|
  moves : bendiness = 0 ∨ slots * tolerance ≤ 16 * |radius| * |bendiness|

/-- The standard settings have room for ten trillion vertices. -/
theorem roomy_standard {slots : Nat} (h : slots ≤ 10000000000000) :
    Roomy slots (Settings.standard (α := ℝ)).ringRadius (Settings.standard (α := ℝ)).bendiness := by
  have h_slots : (slots : ℝ) ≤ 10000000000000 := by exact_mod_cast h
  constructor
  case apart =>
    norm_num [Settings.standard, nat, epsilon]
    linarith
  case moves =>
    refine Or.inr ?_
    norm_num [Settings.standard, nat, tolerance]
    linarith

/-- **With enough room** every edge has a route. -/
theorem hasRoute_of_mem_keptEdges {net : Network} {settings : Settings ℝ} {width height : ℝ}
    (h : Roomy net.vertices.length settings.ringRadius settings.bendiness) {bent : Edge × Bend}
    (h_bent : bent ∈ keptEdges net.flags.simple net.edges) :
    HasRoute (net.place settings width height) settings.bendiness bent := by
  by_contra h_none
  obtain ⟨h_loop, h_index, h_bendiness, h_close⟩ := not_hasRoute_iff.1 h_none
  -- both ends are slots, and an edge that is no loop has two of them
  obtain ⟨h_source, h_target⟩ := within_of_mem_keptEdges net.within bent h_bent
  have h_apart : 4 * |settings.ringRadius| ≤ net.vertices.length *
      (net.place settings width height bent.2.drawn.source).distance
        (net.place settings width height bent.2.drawn.target) :=
    le_distance_slotPosition h_source h_target (source_ne_target_of_mem_keptEdges h_bent h_loop) _ _
  have h_moves := h.moves.resolve_left h_bendiness
  have h_move := le_abs_bendDisplacement h_index settings.bendiness
  have h_slots : (0 : ℝ) < net.vertices.length := by
    exact_mod_cast (Nat.zero_le _).trans_lt h_source
  rcases h_close with h_close | h_close
  · have h_small := h_apart.trans (mul_le_mul_of_nonneg_left h_close h_slots.le)
    exact absurd h.apart (not_lt.2 h_small)
  · -- the slots and the move are each too large for that
    have h_both := mul_le_mul h_apart h_move (by positivity)
      (mul_nonneg h_slots.le (Point.length_nonneg _))
    have h_small := mul_lt_mul_of_pos_left h_close h_slots
    linarith

end RingDiagram
