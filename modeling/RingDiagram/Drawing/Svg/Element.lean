import RingDiagram.Drawing.Svg.Escape

/-!
# Elements

An element of a drawing is a name with attributes and nothing inside. It is written as one tag that
closes itself.
-/

namespace RingDiagram.Svg

/-- An attribute by name and value. -/
structure Attribute where
  name : String
  value : String
  deriving DecidableEq, Repr, Inhabited

/-- An element without content. -/
structure Element where
  name : String
  attributes : List Attribute
  deriving DecidableEq, Repr, Inhabited

/-- The attribute after a space, its value escaped and between quotes. -/
def Attribute.write (a : Attribute) : List Char :=
  ' ' :: a.name.toList ++ '=' :: '"' :: escape a.value.toList ++ ['"']

/-- The tag of an element up to its last attribute. -/
def Element.beginning (e : Element) : List Char :=
  '<' :: e.name.toList ++ e.attributes.flatMap Attribute.write

/-- The tag of an element that closes itself. -/
def Element.write (e : Element) : List Char :=
  e.beginning ++ ['/', '>']

/-- The tag that opens an element with content. -/
def Element.openTag (e : Element) : List Char :=
  e.beginning ++ ['>']

end RingDiagram.Svg
