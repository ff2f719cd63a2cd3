import RingDiagram.Graph.Model
import RingDiagram.Notation.Line

/-!
# Writing a notation

Every model whose names are words can be written down: a flags line, the vertices with commas, and
the edges as groups, each on a line of its own.
-/

namespace RingDiagram

namespace Notation

/-- Texts with a separator between each two. -/
def joined (separator : Char) (texts : List (List Char)) : List Char :=
  [separator].intercalate texts

/-- An edge list of one group. -/
def writeGroup (group : String × String) : List Char :=
  '(' :: group.1.toList ++ ',' :: group.2.toList ++ [')']

/-- The text of a line. -/
def Line.write : Line → List Char
  | .flags modes => '-' :: modes.letters
  | .matrixRow cells => joined ' ' (cells.map fun n => Nat.toDigits 10 n)
  | .edgeList groups => joined ',' (groups.map writeGroup)
  | .vertexList names => joined ',' (names.map String.toList)
  | .path names => joined '-' (names.map String.toList)

end Notation

/-- The lines that a model is written as. -/
def Model.lines (m : Model) : List Notation.Line :=
  .flags m.flags ::
    ((if m.vertices.isEmpty then [] else [.vertexList m.vertices]) ++
      if m.edges.isEmpty then [] else [.edgeList m.namedEdges])

/-- The notation of a model. -/
def Model.write (m : Model) : String :=
  String.ofList (Notation.joined '\n' (m.lines.map Notation.Line.write))

end RingDiagram
