import RingDiagram.Error
import RingDiagram.Geometry.Point

/-!
# Drawing commands

A drawing is a list of commands, each a primitive that a surface knows how to draw. A command is
refused when its geometry is not finite. The geometry of a line or an arc takes in its thickness,
that of a ring does not.
-/

namespace RingDiagram

/-- One primitive of a drawing. Angles grow clockwise on screen. -/
inductive Command (α : Type) where
  /-- Fills the whole surface. -/
  | background (paint : String)
  /-- A filled disc. -/
  | circle (center : Point α) (radius : α) (paint : String)
  | line (start finish : Point α) (paint : String) (thickness : α)
  /-- Clockwise from the first angle to the second. -/
  | arc (center : Point α) (radius startAngle endAngle : α) (paint : String) (thickness : α)
  /-- A full circle that is not filled. -/
  | ring (center : Point α) (radius : α) (paint : String) (thickness : α)
  /-- A filled polygon. -/
  | polygon (points : List (Point α)) (paint : String)
  deriving DecidableEq, Repr

namespace Command

variable {α : Type}

/-- The kind of a command. -/
def kind : Command α → CommandKind
  | background _ => .background
  | circle .. => .circle
  | line .. => .line
  | arc .. => .arc
  | ring .. => .ring
  | polygon .. => .polygon

/-- The geometry of the command is finite. -/
def isFinite [Scalar α] : Command α → Bool
  | background _ => true
  | circle center radius _ => center.isFinite && Scalar.isFinite radius
  | line start finish _ thickness =>
    start.isFinite && finish.isFinite && Scalar.isFinite thickness
  | arc center radius startAngle endAngle _ thickness =>
    center.isFinite && Scalar.isFinite radius && Scalar.isFinite startAngle &&
      Scalar.isFinite endAngle && Scalar.isFinite thickness
  | ring center radius _ _ => center.isFinite && Scalar.isFinite radius
  | polygon points _ => points.all Point.isFinite

/-- Refuses a command whose geometry is not finite. -/
def requireFinite [Scalar α] (command : Command α) : Except SurfaceError Unit :=
  if command.isFinite then .ok () else .error (.notFinite command.kind)

end Command

end RingDiagram
