import RingDiagram.Text.Blank

/-!
# Kept lines

A notation is read line by line. Comments run from two slashes to the end of their line, blanks at
either end of a line carry no meaning, and lines on which nothing is left are not kept. A kept
line remembers its number in the whole text.
-/

namespace RingDiagram.Notation

open Text

/-- A line that says something, and its number in the text, counted from one. -/
structure KeptLine where
  number : Nat
  text : List Char
  deriving DecidableEq, Repr, Inhabited

/-- The part of a line before its comment. -/
def beforeComment : List Char → List Char
  | [] => []
  | '/' :: '/' :: _ => []
  | c :: rest => c :: beforeComment rest

/-- What a line says: the trimmed text before its comment. -/
def content (line : List Char) : List Char :=
  trim (beforeComment line)

/-- The line of a given number, if it says something. -/
def KeptLine.of? (numbered : List Char × Nat) : Option KeptLine :=
  let text := content numbered.1
  if text.isEmpty then none else some ⟨numbered.2, text⟩

/-- The lines of a source text that say something. -/
def keptLines (source : String) : List KeptLine :=
  ((lines source.toList).zipIdx 1).filterMap KeptLine.of?

end RingDiagram.Notation
