import RingDiagram.Error
import RingDiagram.Graph.Edge
import RingDiagram.Graph.Flags

/-!
# Adjacency matrices

A matrix gives the edges among the visible vertices by their numbers. Cell `(i, j)` counts the
edges from the `i`-th to the `j`-th visible vertex; in an undirected graph the matrix is
symmetric, only its lower triangle is read, and a diagonal cell counts each loop twice.

`expand` scans the cells row by row. The first cell with a fault decides the error, a fault of the
cell itself before the limit on the number of edges. `edges?` says the same in two passes, the
counts of all cells before the first edge; it knows no faults but those of the matrix.
-/

namespace RingDiagram

/-- The most edges that one matrix may stand for. -/
def edgeLimit : Nat := 100000

/-- The rows of a matrix in the order of their lines. -/
structure AdjacencyMatrix where
  rows : List (List Nat) := []
  deriving DecidableEq, Repr, Inhabited

namespace AdjacencyMatrix

/-- The matrix with one more row, at the bottom. -/
def push (m : AdjacencyMatrix) (row : List Nat) : AdjacencyMatrix :=
  ⟨m.rows ++ [row]⟩

/-- A matrix without rows. -/
def isEmpty (m : AdjacencyMatrix) : Bool :=
  m.rows.isEmpty

/-- The entry in row `i` and column `j`, zero where there is none. -/
def entry (m : AdjacencyMatrix) (i j : Nat) : Nat :=
  ((m.rows[i]?.getD [])[j]?).getD 0

/-- The cell at row `i` and column `j` as it is read, transposed under the `flipped` flag. -/
def cell (m : AdjacencyMatrix) (flags : Flags) (i j : Nat) : Nat :=
  if flags.flipped then m.entry j i else m.entry i j

/-- The first row width that is not `n`. -/
def wrongWidth? (m : AdjacencyMatrix) (n : Nat) : Option Nat :=
  (m.rows.map List.length).find? (· != n)

/-- The fault of a matrix that is not `n` rows of width `n`. -/
def sizeFault? (m : AdjacencyMatrix) (n : Nat) : Option MatrixFault :=
  let wrong := m.wrongWidth? n
  if m.rows.length ≠ n ∨ wrong.isSome then
    some (.wrongSize n m.rows.length (wrong.getD n))
  else none

/-- The positions that are read of an `n` by `n` matrix, row by row: all of them, or those on and
below the diagonal. -/
def positions (directed : Bool) (n : Nat) : List (Nat × Nat) :=
  (List.range n).flatMap fun i =>
    (List.range (if directed then n else i + 1)).map fun j => (i, j)

/-- The number of edges that the cell at `(i, j)` stands for. -/
def multiplicity (m : AdjacencyMatrix) (flags : Flags) (i j : Nat) : Except MatrixFault Nat :=
  let count := m.cell flags i j
  if flags.directed then .ok count
  else if i = j then
    -- a loop meets its vertex at both ends
    if count % 2 = 0 then .ok (count / 2) else .error (.oddLoop (i + 1))
  else if count = m.cell flags j i then .ok count
  else .error (.asymmetric (i + 1) (j + 1))

/-- The slot of visible vertex `k` in a table of slots. -/
def slotAt (slots : Array Nat) (k : Nat) : Except ParseError Nat :=
  match slots[k]? with
  | some slot => .ok slot
  | none => .error (.broken s!"no offset for visible vertex {k}")

/-- The edges so far and those of one more cell, unless they exceed the limit. -/
def addCell (m : AdjacencyMatrix) (flags : Flags) (slots : Array Nat) (edges : Array Edge)
    (position : Nat × Nat) : Except ParseError (Array Edge) :=
  match m.multiplicity flags position.1 position.2 with
  | .error fault => .error (.matrix fault)
  | .ok count =>
    if edgeLimit < edges.size + count then .error (.matrix (.tooManyEdges edgeLimit))
    else do
      -- of a matrix of the right size both positions are in the table
      let source ← slotAt slots position.1
      let target ← slotAt slots position.2
      return edges ++ Array.replicate count ⟨source, target⟩

/-- The edges that the matrix stands for, among visible vertices in the given slots. -/
def expand (m : AdjacencyMatrix) (flags : Flags) (slots : List Nat) :
    Except ParseError (List Edge) :=
  match m.sizeFault? slots.length with
  | some fault => .error (.matrix fault)
  | none =>
    ((positions flags.directed slots.length).foldlM (m.addCell flags slots.toArray) #[]).map
      Array.toList

/-- The numbers of edges that the cells at some positions stand for, one after the other, when
`total` edges come before them. -/
def counts? (m : AdjacencyMatrix) (flags : Flags) :
    Nat → List (Nat × Nat) → Except MatrixFault (List Nat)
  | _, [] => .ok []
  | total, position :: rest =>
    match m.multiplicity flags position.1 position.2 with
    | .error fault => .error fault
    | .ok count =>
      if edgeLimit < total + count then .error (.tooManyEdges edgeLimit)
      else (m.counts? flags (total + count) rest).map (count :: ·)

/-- The edges of cells with their counts: as many copies of one edge as the count of its cell. -/
def copies (slots : Array Nat) (cells : List ((Nat × Nat) × Nat)) : List Edge :=
  cells.flatMap fun cell =>
    List.replicate cell.2 ⟨slots.getD cell.1.1 0, slots.getD cell.1.2 0⟩

/-- The expansion without its accumulation: first all counts, then all edges. The counts depend on
the table of slots only by its length. -/
def edges? (m : AdjacencyMatrix) (flags : Flags) (slots : List Nat) :
    Except MatrixFault (List Edge) :=
  match m.sizeFault? slots.length with
  | some fault => .error fault
  | none =>
    let cells := positions flags.directed slots.length
    (m.counts? flags 0 cells).map fun counts => copies slots.toArray (cells.zip counts)

@[simp] theorem rows_push (m : AdjacencyMatrix) (row : List Nat) :
    (m.push row).rows = m.rows ++ [row] := rfl

@[simp] theorem isEmpty_push (m : AdjacencyMatrix) (row : List Nat) :
    (m.push row).isEmpty = false := by
  simp [isEmpty]

/-- A position is read when it lies in the matrix and, unless every cell is read, not above the
diagonal. -/
theorem mem_positions {directed : Bool} {n i j : Nat} :
    (i, j) ∈ positions directed n ↔ i < n ∧ if directed then j < n else j ≤ i := by
  cases directed <;> grind [positions]

end AdjacencyMatrix

end RingDiagram
