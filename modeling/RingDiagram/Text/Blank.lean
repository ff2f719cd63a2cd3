import RingDiagram.Text.CodeRange

/-!
# White space

A blank is a character with the Unicode property `White_Space`. Texts are lists of characters.
`trim` removes the blanks at both ends, `fields` gives the maximal runs without blanks, and
`lines` cuts at every line feed.
-/

namespace RingDiagram.Text

/-- The code points with the Unicode property `White_Space`. -/
def blankRanges : List CodeRange :=
  [(0x9, 0xD), (0x20, 0x20), (0x85, 0x85), (0xA0, 0xA0), (0x1680, 0x1680), (0x2000, 0x200A),
    (0x2028, 0x2029), (0x202F, 0x202F), (0x205F, 0x205F), (0x3000, 0x3000)]

/-- A character of white space. -/
def isBlank (c : Char) : Bool :=
  inRanges blankRanges c

/-- The text without the blanks it begins with. -/
def trimStart (text : List Char) : List Char :=
  text.dropWhile isBlank

/-- The text without the blanks it ends with. -/
def trimEnd (text : List Char) : List Char :=
  (text.reverse.dropWhile isBlank).reverse

/-- The text without the blanks at either end. -/
def trim (text : List Char) : List Char :=
  trimEnd (trimStart text)

/-- The maximal runs of characters that are not blank, in order. -/
def fields (text : List Char) : List (List Char) :=
  (text.splitOnP isBlank).filter (!·.isEmpty)

/-- The pieces of the text between line feeds, the piece after the last one included. -/
def lines (text : List Char) : List (List Char) :=
  text.splitOnP (· == '\n')

@[simp] theorem fields_nil : fields [] = [] := rfl

/-- Fields are cut at every blank. -/
theorem fields_append_cons {c : Char} (blank : isBlank c = true) (before after : List Char) :
    fields (before ++ c :: after) = fields before ++ fields after := by
  rw [fields, List.splitOnP_append_cons before after blank, List.filter_append]
  rfl

end RingDiagram.Text
