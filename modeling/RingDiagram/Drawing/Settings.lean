import RingDiagram.Geometry.Scalar

/-!
# Drawing settings

Paints are passed to the drawing target as they are; lengths are in pixels of the surface.
-/

namespace RingDiagram

open Scalar

/-- How a graph is drawn. -/
structure Settings (α : Type) where
  background : String
  vertexColor : String
  edgeColor : String
  /-- The radius of the ring that the vertices sit on. -/
  ringRadius : α
  vertexRadius : α
  edgeThickness : α
  arrowSize : α
  /-- How far every bend moves an edge. -/
  bendiness : α
  deriving Repr

/-- The settings of a drawing for which nothing is chosen. -/
def Settings.standard {α : Type} [Div α] [NatCast α] : Settings α where
  background := "white"
  vertexColor := "black"
  edgeColor := "black"
  ringRadius := nat 100
  vertexRadius := nat 5
  edgeThickness := nat 3 / nat 2
  arrowSize := nat 8
  bendiness := nat 10

end RingDiagram
