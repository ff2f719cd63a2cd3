import RingDiagram.Drawing.Command
import RingDiagram.Layout.Basic

/-!
# Painting

A layout is painted as a list of commands: the background, then every edge with its arrowhead if
the graph is directed, then the visible vertices on top. `Model.drawing` goes all the way from a
model to that list and refuses it as a whole when one of its commands is not finite.
-/

namespace RingDiagram

open Scalar

variable {α : Type} [Add α] [Sub α] [Mul α] [Div α] [Neg α] [NatCast α] [LT α] [DecidableLT α]
  [BEq α] [Scalar α]

/-- The command that draws the stroke of an edge. -/
def Stroke.command (settings : Settings α) : Stroke α → Command α
  | .straight start finish => .line start finish settings.edgeColor settings.edgeThickness
  | .arc circle startAngle endAngle =>
    .arc circle.center circle.radius startAngle endAngle settings.edgeColor
      settings.edgeThickness
  | .loop circle => .ring circle.center circle.radius settings.edgeColor settings.edgeThickness

/-- The triangle around a point that points along the heading, its corners at the given
distance. -/
def arrowCorners (anchor heading : Point α) (size : α) : List (Point α) :=
  [nat 0, tau / nat 3, nat 2 * tau / nat 3].map fun turn =>
    anchor + (heading.turned turn).scale size

/-- The commands that draw an edge. -/
def Route.commands (settings : Settings α) (directed : Bool) (e : Route α) :
    List (Command α) :=
  e.stroke.command settings ::
    if directed then
      [.polygon (arrowCorners e.anchor e.heading settings.arrowSize) settings.edgeColor]
    else []

/-- The commands that draw a vertex: none for one that is not visible. -/
def PlacedVertex.commands (settings : Settings α) (v : PlacedVertex α) : List (Command α) :=
  if v.visible then [.circle v.position settings.vertexRadius settings.vertexColor] else []

/-- The commands that draw a layout. -/
def Layout.commands (settings : Settings α) (l : Layout α) : List (Command α) :=
  .background settings.background ::
    (l.edges.flatMap (Route.commands settings l.directed) ++
      l.vertices.flatMap (PlacedVertex.commands settings))

/-- The commands as they are, unless one is not finite. -/
def allFinite (commands : List (Command α)) : Except RenderError (List (Command α)) :=
  match commands.find? (!·.isFinite) with
  | some command => .error (.surface (.notFinite command.kind))
  | none => .ok commands

/-- The commands that draw a model on a surface of the given size. -/
def Model.drawing (m : Model) (settings : Settings α) (width height : α) :
    Except RenderError (List (Command α)) := do
  let net ← Network.ofModel? m
  let layout ← net.layout settings width height
  allFinite (layout.commands settings)

end RingDiagram
