import RingDiagram.Error
import RingDiagram.Geometry.Circle
import RingDiagram.Layout.Bend

/-!
# Routes

The route of an edge is the stroke it is drawn with, the anchor that the stroke passes through, and
the heading of its arrowhead there. A loop is a circle that touches its vertex and grows away from
the centre of the ring. Any other edge is a straight line, or the arc through its two ends and its
anchor when its bend moves it off the line.
-/

namespace RingDiagram

open Scalar

/-- The stroke that an edge is drawn with. -/
inductive Stroke (α : Type) where
  | straight (start finish : Point α)
  /-- Clockwise on screen from the first angle to the second. -/
  | arc (circle : Circle α) (startAngle endAngle : α)
  /-- A full circle that touches the vertex of a loop. -/
  | loop (circle : Circle α)
  deriving DecidableEq, Repr

/-- An edge and how it is drawn. -/
structure Route (α : Type) where
  /-- The edge as the model has it. -/
  edge : Edge
  /-- The number of earlier edges of its pair. -/
  bend : Nat
  /-- The edge runs against the direction it is drawn in. -/
  reversed : Bool
  /-- The signed distance of the anchor from the middle of the straight line. -/
  displacement : α
  /-- The point that the stroke passes through, and where an arrowhead sits. -/
  anchor : Point α
  /-- The direction of an arrowhead. -/
  heading : Point α
  stroke : Stroke α
  deriving DecidableEq, Repr

variable {α : Type} [Add α] [Sub α] [Mul α] [Div α] [Neg α] [NatCast α] [LT α] [DecidableLT α]
  [BEq α] [Scalar α]

/-- The direction that a loop grows in when its vertex is at the centre of the ring. -/
def upwards : Point α :=
  ⟨nat 0, -nat 1⟩

/-- The direction of an edge whose ends coincide. -/
def rightwards : Point α :=
  ⟨nat 1, nat 0⟩

/-- The direction from the centre of the ring to a vertex. -/
def outward (center vertex : Point α) : Point α :=
  (vertex - center).direction?.getD upwards

/-- The route of a loop at a vertex. -/
def Route.ofLoop (center vertex : Point α) (bendiness : α) (edge : Edge) (bend : Bend) :
    Route α :=
  let d := bendDisplacement bend.index bendiness true
  let away := outward center vertex
  let anchor := vertex + away.scale d
  { edge
    bend := bend.index
    reversed := bend.reversed
    displacement := d
    anchor
    heading := away.turned (pi / nat 2)
    stroke := .loop (Circle.onDiameter vertex anchor) }

/-- The anchor and the stroke of an edge between two points, moved off the straight line by `d`:
clockwise from the far end for a move to the right of the edge, from the near end otherwise. -/
def curve? (start finish : Point α) (d : α) : Option (Point α × Stroke α) :=
  let middle := start.midpoint finish
  if d == nat 0 then some (middle, .straight start finish)
  else do
    let normal ← Point.normal? start finish
    let anchor := middle + normal.scale d
    let circle ← Circle.through? start finish anchor
    -- clockwise the arc must pass the anchor, so its side decides which end comes first
    let near := start.bearingFrom circle.center
    let far := finish.bearingFrom circle.center
    return (anchor, if nat 0 < d then .arc circle far near else .arc circle near far)

/-- The direction in which an edge runs that is drawn between two points. -/
def headingOf (start finish : Point α) (reversed : Bool) : Point α :=
  let forward := (finish - start).direction?.getD rightwards
  if reversed then forward.scale (-nat 1) else forward

/-- The route of an edge that is drawn between two different vertices. -/
def Route.between (start finish : Point α) (bendiness : α) (edge : Edge) (bend : Bend) :
    Except RenderError (Route α) :=
  let d := bendDisplacement bend.index bendiness false
  match curve? start finish d with
  | none => .error (.noArc edge.source edge.target)
  | some (anchor, stroke) =>
    .ok {
      edge
      bend := bend.index
      reversed := bend.reversed
      displacement := d
      anchor
      heading := headingOf start finish bend.reversed
      stroke }

/-- The place of the vertex in a slot. -/
def positionOf (positions : Array (Point α)) (slot : Nat) : Except RenderError (Point α) :=
  match positions[slot]? with
  | some p => .ok p
  | none => .error (.noSuchVertex slot positions.size)

/-- The route of an edge among vertices in the given places. -/
def Route.of (positions : Array (Point α)) (center : Point α) (bendiness : α)
    (bent : Edge × Bend) : Except RenderError (Route α) := do
  let (edge, bend) := bent
  let start ← positionOf positions bend.drawn.source
  let finish ← positionOf positions bend.drawn.target
  -- a loop begins and ends in one place
  if edge.isLoop then return Route.ofLoop center start bendiness edge bend
  else Route.between start finish bendiness edge bend

end RingDiagram
