import RingDiagram.Geometry.Scalar
import RingDiagram.Graph.Edge
import Std.Data.HashMap

/-!
# Bends

Edges that join the same two vertices are told apart by their bends. The bend of an edge is the
number of earlier edges of its pair, and all edges of a pair are drawn in the direction of the
first one, so that their bends are measured in one frame. `BendCounter` keeps the count and the
first direction of every pair; other pairs have no influence.

`bendDisplacement` says how far a bend moves an edge off the straight line: bends of an edge between
two vertices alternate sides and grow every second step, bends of a loop stack outwards.
-/

namespace RingDiagram

/-- The place of an edge among the edges of its pair. -/
structure Bend where
  /-- The number of earlier edges of the pair. -/
  index : Nat
  /-- The edge in the direction it is drawn in. -/
  drawn : Edge
  /-- The edge runs against the direction it is drawn in. -/
  reversed : Bool
  deriving DecidableEq, Repr, Inhabited

/-- What is known of a pair: its first edge and the number of its edges. -/
structure PairTally where
  first : Edge
  count : Nat
  deriving DecidableEq, Repr, Inhabited

/-- The pairs of the edges seen so far. -/
structure BendCounter where
  tallies : Std.HashMap (Nat × Nat) PairTally := {}

namespace BendCounter

/-- What is known of the pair of an edge, which may be its first. -/
def tally (t : BendCounter) (e : Edge) : PairTally :=
  t.tallies.getD e.pair ⟨e, 0⟩

/-- The bend of the next edge. -/
def bend (t : BendCounter) (e : Edge) : Bend :=
  let known := t.tally e
  -- a loop equals its own reverse, so it always runs as drawn
  if known.first = e then ⟨known.count, e, false⟩ else ⟨known.count, e.reverse, true⟩

/-- The counter after one more edge. -/
def push (t : BendCounter) (e : Edge) : BendCounter :=
  let known := t.tally e
  ⟨t.tallies.insert e.pair { known with count := known.count + 1 }⟩

/-- The bend of the next edge, which is counted. -/
def next (e : Edge) : StateM BendCounter Bend := fun t =>
  (t.bend e, t.push e)

end BendCounter

/-- The bends of a sequence of edges. -/
def bends (edges : List Edge) : List Bend :=
  ((edges.mapM BendCounter.next).run {}).1

variable {α : Type} [Mul α] [Neg α] [NatCast α]

open Scalar

/-- How far the bend moves an edge off the straight line: a loop outwards by 2, 4, 6, …
times the bendiness, any other edge by 0, -2, 2, -4, 4, … times the bendiness. -/
def bendDisplacement (bend : Nat) (bendiness : α) (isLoop : Bool) : α :=
  if isLoop then bendiness * nat (bend + 1) * nat 2
  else
    let side : α := if bend % 2 = 0 then nat 1 else -nat 1
    bendiness * nat ((bend + 1) / 2) * nat 2 * side

end RingDiagram
