import RingDiagram.Error
import RingDiagram.Graph.Model

/-!
# Networks

A network is a model whose edges have been checked: every end of an edge is the slot of a vertex,
and of one that is drawn. Layout works on networks only. References to vertices are 32 bits wide,
so of a larger index the low 32 bits count.
-/

namespace RingDiagram

/-- A vertex of a network. -/
structure Vertex where
  name : String
  visible : Bool
  deriving DecidableEq, Repr, Inhabited

/-- The vertex of a given name. -/
def Vertex.ofName (name : String) : Vertex :=
  ⟨name, !invisibleName name⟩

/-- The slot that an index refers to. -/
def slotOf (index : Nat) : Nat :=
  index % 0x100000000

/-- Both ends of the edge lie below `count`. -/
def Edge.Within (count : Nat) (e : Edge) : Prop :=
  e.source < count ∧ e.target < count

/-- Vertices in slots and edges among them. -/
structure Network where
  flags : Flags
  vertices : List Vertex
  edges : List Edge
  within : ∀ e ∈ edges, e.Within vertices.length

namespace Network

/-- The slot of a visible vertex that an index refers to. -/
def endpoint? (vertices : Array Vertex) (index : Nat) :
    Except RenderError { slot : Nat // slot < vertices.size } :=
  if h : slotOf index < vertices.size then
    let vertex := vertices[slotOf index]
    if vertex.visible then .ok ⟨slotOf index, h⟩ else .error (.endsAtInvisible vertex.name)
  else .error (.noSuchVertex index vertices.size)

/-- The edge among the slots that an edge of a model refers to; the source is checked first. -/
def edge? (vertices : Array Vertex) (e : Edge) :
    Except RenderError { e : Edge // e.Within vertices.size } := do
  let source ← endpoint? vertices e.source
  let target ← endpoint? vertices e.target
  return ⟨⟨source.val, target.val⟩, source.property, target.property⟩

/-- The network of a model, or the fault of the first edge that has one. -/
def ofModel? (m : Model) : Except RenderError Network := do
  let vertices := m.vertices.map Vertex.ofName
  let edges ← m.edges.mapM (edge? vertices.toArray)
  return {
    flags := m.flags
    vertices
    edges := edges.map Subtype.val
    within := by
      -- every edge kept carries its own proof
      intro e h
      obtain ⟨checked, _, rfl⟩ := List.mem_map.1 h
      simpa using checked.property }

end Network

end RingDiagram
