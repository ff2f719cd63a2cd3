import RingDiagram.Graph.AdjacencyMatrix
import RingDiagram.Graph.Model
import RingDiagram.Notation.KeptLine
import RingDiagram.Notation.Line

/-!
# Reading a notation

The kept lines are read one after the other into a draft: the model so far and the matrix rows
seen. Names in edges refer to vertices declared above, or are declared by their first mention
under the `auto` flag. A matrix excludes every other way to give edges and must come last; its
edges are added when all lines are read. The first line with a fault decides the error.
-/

namespace RingDiagram

/-- The model in which a vertex of this name is declared, and the slot that the name refers to. -/
def Model.refer (m : Model) (line : Nat) (name : String) : Except ParseError (Model × Nat) :=
  match m.find? name with
  | some index => .ok (m, index)
  | none =>
    if m.flags.auto then .ok (m.declare name, m.vertices.length)
    else .error (.unknownVertex name line)

/-- The model with the edge of one group. -/
def Model.addGroup (line : Nat) (m : Model) (group : String × String) :
    Except ParseError Model := do
  -- the second name is looked up where the first may have been declared
  let (m, source) ← m.refer line group.1
  let (m, target) ← m.refer line group.2
  return m.connect ⟨source, target⟩

/-- The model with the edges of a path that goes on from the vertex `previous`. -/
def Model.continuePath (line : Nat) : Model → Nat → List String → Except ParseError Model
  | m, _, [] => .ok m
  | m, previous, name :: rest => do
    let (m, index) ← m.refer line name
    continuePath line (m.connect ⟨previous, index⟩) index rest

/-- The model with the edges of a path. -/
def Model.addPath (line : Nat) (m : Model) : List String → Except ParseError Model
  | [] => .ok m
  | name :: rest => do
    let (m, index) ← m.refer line name
    m.continuePath line index rest

namespace Notation

/-- What has been read so far. -/
structure Draft where
  model : Model := {}
  matrix : AdjacencyMatrix := {}
  deriving DecidableEq, Repr, Inhabited

namespace Draft

/-- The draft with a changed model, which must not come after a matrix row. -/
def change (d : Draft) (number : Nat) (f : Model → Except ParseError Model) :
    Except ParseError Draft :=
  if d.matrix.isEmpty then (f d.model).map fun m => { d with model := m }
  else .error (.mixedWithMatrix number)

/-- The draft with a matrix row, the first of which must not come after an edge. -/
def addRow (d : Draft) (number : Nat) (cells : List Nat) : Except ParseError Draft :=
  if d.matrix.isEmpty && !d.model.edges.isEmpty then .error (.mixedWithMatrix number)
  else .ok { d with matrix := d.matrix.push cells }

/-- The draft with one more line. -/
def addLine (d : Draft) (number : Nat) : Line → Except ParseError Draft
  | .flags modes => d.change number fun m => .ok { m with flags := modes }
  | .matrixRow cells => d.addRow number cells
  | .edgeList groups => d.change number fun m => groups.foldlM (Model.addGroup number) m
  | .vertexList names =>
    d.change number fun m => .ok { m with vertices := m.vertices ++ names }
  | .path names => d.change number fun m => m.addPath number names

/-- The draft with one more kept line. -/
def addKept (first : Bool) (d : Draft) (kept : KeptLine) : Except ParseError Draft :=
  match Line.read? first kept.text with
  | some line => d.addLine kept.number line
  | none => .error (.unreadableLine kept.number)

/-- The draft with all the lines of a source text. -/
def addAll (d : Draft) : List KeptLine → Except ParseError Draft
  | [] => .ok d
  | kept :: rest => do
    -- only the first line may set flags
    let d ← d.addKept true kept
    rest.foldlM (addKept false) d

/-- The model of a draft, with the edges of the matrix if there is one. -/
def close (d : Draft) : Except ParseError Model :=
  if d.matrix.isEmpty then .ok d.model
  else do
    let edges ← d.matrix.expand d.model.flags d.model.visibleSlots
    return { d.model with edges := d.model.edges ++ edges }

end Draft

/-- The model that a source text denotes. -/
def read (source : String) : Except ParseError Model := do
  let draft ← Draft.addAll {} (keptLines source)
  draft.close

end Notation

end RingDiagram
