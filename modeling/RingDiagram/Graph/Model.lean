import RingDiagram.Graph.Edge
import RingDiagram.Graph.Flags

/-!
# Graph models

A model is what a notation denotes: flags, the vertex names in the order of their declaration, and
the edges in order, as pairs of positions in that list. A name may be declared more than once; it
then refers to its first position. A name that begins with a low line is invisible: its vertex
takes a place on the ring and is not drawn.
-/

namespace RingDiagram

/-- A vertex with this name is laid out and never drawn. -/
def invisibleName (name : String) : Bool :=
  name.toList.head? == some '_'

/-- A graph as it was written down. -/
structure Model where
  flags : Flags := {}
  /-- The names in order of declaration, repeats included. -/
  vertices : List String := []
  edges : List Edge := []
  deriving DecidableEq, Repr, Inhabited

namespace Model

/-- The first position that carries the name. -/
def find? (m : Model) (name : String) : Option Nat :=
  m.vertices.idxOf? name

/-- The model with one more vertex, at the end. -/
def declare (m : Model) (name : String) : Model :=
  { m with vertices := m.vertices ++ [name] }

/-- The model with one more edge, at the end. -/
def connect (m : Model) (e : Edge) : Model :=
  { m with edges := m.edges ++ [e] }

/-- The number of vertices that are drawn. -/
def visibleCount (m : Model) : Nat :=
  m.vertices.countP (!invisibleName ·)

/-- The positions of the visible vertices, in order: entry `k` is the position of the `k`-th
visible vertex. -/
def visibleSlots (m : Model) : List Nat :=
  (m.vertices.zipIdx.filter fun v => !invisibleName v.1).map (·.2)

/-- The edges as pairs of names; an edge that leaves the vertex list has none. -/
def namedEdges (m : Model) : List (String × String) :=
  let names := m.vertices.toArray
  m.edges.filterMap fun e => do
    let source ← names[e.source]?
    let target ← names[e.target]?
    pure (source, target)

@[simp] theorem vertices_declare (m : Model) (name : String) :
    (m.declare name).vertices = m.vertices ++ [name] := rfl

@[simp] theorem edges_declare (m : Model) (name : String) :
    (m.declare name).edges = m.edges := rfl

@[simp] theorem flags_declare (m : Model) (name : String) :
    (m.declare name).flags = m.flags := rfl

@[simp] theorem vertices_connect (m : Model) (e : Edge) :
    (m.connect e).vertices = m.vertices := rfl

@[simp] theorem edges_connect (m : Model) (e : Edge) :
    (m.connect e).edges = m.edges ++ [e] := rfl

@[simp] theorem flags_connect (m : Model) (e : Edge) : (m.connect e).flags = m.flags := rfl

@[simp] theorem length_visibleSlots (m : Model) : m.visibleSlots.length = m.visibleCount := by
  -- both sides count the same names, the left one with their positions attached
  rw [visibleSlots, visibleCount, List.length_map, ← List.countP_eq_length_filter]
  conv => rhs; rw [← List.zipIdx_map_fst 0 m.vertices, List.countP_map]
  rfl

end Model

end RingDiagram
