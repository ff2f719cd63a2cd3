import RingDiagram.Geometry.Point

/-!
# The ring

Vertices sit on a ring at equal angles, one slot after the other, turned so that a polygon with an
odd number of corners has one at the top. Such a polygon reaches further above its centre than
below, so the ring moves down by half the difference and is balanced on the surface.
-/

namespace RingDiagram

open Scalar

variable {α : Type} [Add α] [Sub α] [Mul α] [Div α] [NatCast α] [LT α] [DecidableLT α] [BEq α]
  [Scalar α]

/-- The angle of slot `i` out of `slots`. -/
def slotAngle (slots i : Nat) : α :=
  tau * nat i / nat slots - pi * (nat 2 - nat slots) / (nat 2 * nat slots)

/-- The place of slot `i` out of `slots` on a ring. -/
def slotPosition (slots : Nat) (radius : α) (center : Point α) (i : Nat) : Point α :=
  center + (Point.onUnitCircle (slotAngle slots i)).scale radius

/-- The places of all slots on a ring. -/
def slotPositions (slots : Nat) (radius : α) (center : Point α) : List (Point α) :=
  (List.range slots).map (slotPosition slots radius center)

/-- The least of some numbers, `a` among them. -/
def least (a : α) (rest : List α) : α :=
  rest.foldl lesser a

/-- The greatest of some numbers, `a` among them. -/
def greatest (a : α) (rest : List α) : α :=
  rest.foldl greater a

/-- How far a ring has to move down so that the heights `y` and `rest` of its slots reach equally
far above and below the middle. -/
def balance (middle y : α) (rest : List α) : α :=
  ((middle - least y rest) - (greatest y rest - middle)) / nat 2

/-- The centre of the ring for a given number of slots; an odd ring is balanced around the nominal
centre. -/
def balancedCenter (slots : Nat) (radius : α) (nominal : Point α) : Point α :=
  if slots % 2 = 0 then nominal
  else
    -- measured on the ring around the nominal centre
    match (slotPositions slots radius nominal).map Point.y with
    | [] => nominal
    | y :: rest => ⟨nominal.x, nominal.y + balance nominal.y y rest⟩

end RingDiagram
