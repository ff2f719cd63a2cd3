import RingDiagram.Drawing.Settings
import RingDiagram.Graph.Network
import RingDiagram.Layout.Ring
import RingDiagram.Layout.Route

/-!
# Layout

A layout gives every vertex of a network a place on the ring, whether it is drawn or not, and every
edge a route, in the order of the model. Under the `simple` flag only the first edge of each pair
is kept; the others still count as bends of their pair.
-/

namespace RingDiagram

open Scalar

/-- A vertex and its place on the ring. -/
structure PlacedVertex (α : Type) where
  index : Nat
  name : String
  position : Point α
  visible : Bool
  deriving DecidableEq, Repr

/-- Where everything goes on a surface. -/
structure Layout (α : Type) where
  width : α
  height : α
  /-- The centre of the ring. -/
  center : Point α
  /-- All vertices, in slot order. -/
  vertices : List (PlacedVertex α)
  /-- The edges that are drawn, in the order of the model. -/
  edges : List (Route α)
  directed : Bool
  deriving Repr

/-- The edges that are drawn, with their bends. -/
def keptEdges (simple : Bool) (edges : List Edge) : List (Edge × Bend) :=
  -- bends are given first, so an edge that is dropped counts for those after it
  (edges.zip (bends edges)).filter fun bent => !simple || bent.2.index == 0

variable {α : Type} [Add α] [Sub α] [Mul α] [Div α] [Neg α] [NatCast α] [LT α] [DecidableLT α]
  [BEq α] [Scalar α]

/-- The vertices in their places. -/
def placedVertices (vertices : List Vertex) (positions : List (Point α)) :
    List (PlacedVertex α) :=
  (vertices.zip positions).zipIdx.map fun ((vertex, position), index) =>
    ⟨index, vertex.name, position, vertex.visible⟩

/-- The layout of a network on a surface of the given size. -/
def Network.layout (net : Network) (settings : Settings α) (width height : α) :
    Except RenderError (Layout α) := do
  let slots := net.vertices.length
  let nominal : Point α := ⟨width / nat 2, height / nat 2⟩
  let center := balancedCenter slots settings.ringRadius nominal
  let positions := slotPositions slots settings.ringRadius center
  let kept := keptEdges net.flags.simple net.edges
  -- vertices that are not drawn have their places as well
  let edges ← kept.mapM (Route.of positions.toArray center settings.bendiness)
  return {
    width
    height
    center
    vertices := placedVertices net.vertices positions
    edges
    directed := net.flags.directed }

end RingDiagram
