/-!
# Edges

An edge is an ordered pair of vertex indices. Edges that join the same two vertices, in whichever
direction, share their `pair`.
-/

namespace RingDiagram

/-- An ordered pair of vertex indices. -/
structure Edge where
  source : Nat
  target : Nat
  deriving DecidableEq, Repr, Inhabited, Hashable

namespace Edge

/-- An edge from a vertex to itself. -/
def isLoop (e : Edge) : Bool :=
  e.source == e.target

/-- The edge in the other direction. -/
def reverse (e : Edge) : Edge :=
  ⟨e.target, e.source⟩

/-- The unordered pair of vertices that an edge joins: the lesser index first. -/
def pair (e : Edge) : Nat × Nat :=
  (min e.source e.target, max e.source e.target)

@[simp] theorem isLoop_iff {e : Edge} : e.isLoop = true ↔ e.source = e.target := by
  simp [isLoop]

@[simp] theorem isLoop_reverse (e : Edge) : e.reverse.isLoop = e.isLoop := by
  simp [isLoop, reverse, Bool.beq_comm]

/-- Two edges share their pair exactly when they are equal or reverse to one another. -/
theorem pair_eq_iff {e f : Edge} : e.pair = f.pair ↔ e = f ∨ e = f.reverse := by
  obtain ⟨a, b⟩ := e
  obtain ⟨c, d⟩ := f
  simp only [pair, reverse, Prod.mk.injEq, Edge.mk.injEq]
  omega

end Edge

end RingDiagram
