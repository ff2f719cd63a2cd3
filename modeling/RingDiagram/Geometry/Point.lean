import RingDiagram.Geometry.Scalar

/-!
# Points

Positions and directions on a surface, `x` growing to the right and `y` downwards, so that growing
angles turn clockwise on screen.
-/

namespace RingDiagram

open Scalar

/-- A position or a direction. -/
structure Point (α : Type) where
  x : α
  y : α
  deriving DecidableEq, Repr, Inhabited

namespace Point

variable {α : Type}

instance [Add α] : Add (Point α) := ⟨fun p q => ⟨p.x + q.x, p.y + q.y⟩⟩

instance [Sub α] : Sub (Point α) := ⟨fun p q => ⟨p.x - q.x, p.y - q.y⟩⟩

/-- The vector stretched by a factor. -/
def scale [Mul α] (p : Point α) (k : α) : Point α :=
  ⟨p.x * k, p.y * k⟩

/-- The point halfway between two points. -/
def midpoint [Add α] [Div α] [NatCast α] (p q : Point α) : Point α :=
  ⟨(p.x + q.x) / nat 2, (p.y + q.y) / nat 2⟩

/-- The length of a vector. -/
def length [Scalar α] (p : Point α) : α :=
  Scalar.length p.x p.y

/-- The distance between two points. -/
def distance [Sub α] [Scalar α] (p q : Point α) : α :=
  (q - p).length

/-- The vector of length one in the same direction, unless the vector is too short to have one. -/
def direction? [Div α] [NatCast α] [LT α] [DecidableLT α] [Scalar α] (p : Point α) :
    Option (Point α) :=
  let length := p.length
  if epsilon < length then some ⟨p.x / length, p.y / length⟩ else none

/-- The vector turned by an angle. -/
def turned [Add α] [Sub α] [Mul α] [Scalar α] (p : Point α) (angle : α) : Point α :=
  ⟨p.x * cos angle - p.y * sin angle, p.x * sin angle + p.y * cos angle⟩

/-- The vector of length one at an angle. -/
def onUnitCircle [Scalar α] (angle : α) : Point α :=
  ⟨cos angle, sin angle⟩

/-- The angle at which the point is seen from a centre. -/
def bearingFrom [Sub α] [Scalar α] (p center : Point α) : α :=
  Scalar.angle (p.x - center.x) (p.y - center.y)

/-- Both coordinates are finite. -/
def isFinite [Scalar α] (p : Point α) : Bool :=
  Scalar.isFinite p.x && Scalar.isFinite p.y

@[simp] theorem x_add [Add α] (p q : Point α) : (p + q).x = p.x + q.x := rfl

@[simp] theorem y_add [Add α] (p q : Point α) : (p + q).y = p.y + q.y := rfl

@[simp] theorem x_sub [Sub α] (p q : Point α) : (p - q).x = p.x - q.x := rfl

@[simp] theorem y_sub [Sub α] (p q : Point α) : (p - q).y = p.y - q.y := rfl

@[simp] theorem x_scale [Mul α] (p : Point α) (k : α) : (p.scale k).x = p.x * k := rfl

@[simp] theorem y_scale [Mul α] (p : Point α) (k : α) : (p.scale k).y = p.y * k := rfl

end Point

end RingDiagram
