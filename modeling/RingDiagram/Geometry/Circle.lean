import RingDiagram.Geometry.Point

/-!
# Circles

The circles that curved edges and loops are drawn on: the one through three points, found by
Cramer's rule from the two perpendicular bisectors, and the one over a diameter.
-/

namespace RingDiagram

open Scalar

/-- A circle by centre and radius. -/
structure Circle (α : Type) where
  center : Point α
  radius : α
  deriving DecidableEq, Repr, Inhabited

variable {α : Type} [Add α] [Sub α] [Mul α] [Div α] [Neg α] [NatCast α] [LT α] [DecidableLT α]
  [Scalar α]

/-- Twice the cross product of two sides of the triangle `a b c`: the determinant of the system
that its centre solves. -/
def Circle.determinant (a b c : Point α) : α :=
  nat 2 * (a.x * (b.y - c.y) + b.x * (c.y - a.y) + c.x * (a.y - b.y))

/-- The square of the distance of a point from the origin. -/
def Point.normSquared (p : Point α) : α :=
  p.x * p.x + p.y * p.y

/-- The circle through three points, unless they are too close to a line. -/
def Circle.through? (a b c : Point α) : Option (Circle α) :=
  let d := Circle.determinant a b c
  -- close to a line the centre would be out of reach
  if magnitude d < tolerance then none
  else
    let center : Point α :=
      ⟨(a.normSquared * (b.y - c.y) + b.normSquared * (c.y - a.y) +
          c.normSquared * (a.y - b.y)) / d,
        (a.normSquared * (c.x - b.x) + b.normSquared * (a.x - c.x) +
          c.normSquared * (b.x - a.x)) / d⟩
    some ⟨center, center.distance a⟩

/-- The circle that has the segment from `a` to `b` as a diameter. -/
def Circle.onDiameter (a b : Point α) : Circle α :=
  ⟨a.midpoint b, a.distance b / nat 2⟩

/-- The vector of length one at a right angle to the segment from `a` to `b`, clockwise on
screen. -/
def Point.normal? (a b : Point α) : Option (Point α) :=
  let d := b - a
  (⟨-d.y, d.x⟩ : Point α).direction?

end RingDiagram
