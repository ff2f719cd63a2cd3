/-!
# Mode flags

Four switches choose how a graph is read and drawn. A flags line names the ones that are on by
their letters; other letters mean nothing.
-/

namespace RingDiagram

/-- The modes of a graph. -/
structure Flags where
  /-- Edges are drawn with arrowheads, and a matrix lists them by ordered pair. -/
  directed : Bool := false
  /-- Only the first edge of every vertex pair is drawn. -/
  simple : Bool := false
  /-- A vertex is declared by its first mention in an edge. -/
  auto : Bool := false
  /-- The adjacency matrix is read transposed. -/
  flipped : Bool := false
  deriving DecidableEq, Repr, Inhabited

namespace Flags

/-- The flags whose letters occur in a text. -/
def ofLetters (letters : List Char) : Flags where
  directed := letters.contains 'd'
  simple := letters.contains 's'
  auto := letters.contains 'a'
  flipped := letters.contains 'f'

/-- The letters of the flags that are on. -/
def letters (flags : Flags) : List Char :=
  (if flags.directed then ['d'] else []) ++ (if flags.simple then ['s'] else []) ++
    (if flags.auto then ['a'] else []) ++ if flags.flipped then ['f'] else []

/-- Writing flags down and reading the letters gives them back. -/
@[simp] theorem ofLetters_letters (flags : Flags) : ofLetters flags.letters = flags := by
  obtain ⟨directed, simple, auto, flipped⟩ := flags
  cases directed <;> cases simple <;> cases auto <;> cases flipped <;> rfl

end Flags

end RingDiagram
