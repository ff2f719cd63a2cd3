import RingDiagram.Decimal.Numeral
import RingDiagram.Graph.Flags
import RingDiagram.Notation.Token

/-!
# The forms of a line

A line is a flags line, a matrix row, an edge list, a vertex list or a path. Several forms overlap
in what they look like: digits are a matrix row before they are a name, and a single name is a
vertex list and never a path. `Line.read?` fixes the order in which the forms are tried.

* A flags line is a hyphen and letters, and only the first kept line may be one.
* A matrix row is made of digits and blanks alone. Without blanks inside, every digit is a cell;
  otherwise the runs of digits are the cells. A row with a cell that is too large has no form.
* An edge list is a sequence of groups `(a, b)`, with or without commas between them.
* A vertex list is a sequence of names with commas, a path one of at least two names with hyphens.
-/

namespace RingDiagram.Notation

open Text Decimal

/-- What a line of the notation says. -/
inductive Line where
  | flags (flags : Flags)
  | matrixRow (cells : List Nat)
  | edgeList (groups : List (String × String))
  | vertexList (names : List String)
  | path (names : List String)
  deriving DecidableEq, Repr, Inhabited

/-- The name of the form of a line. -/
def Line.form : Line → String
  | .flags _ => "flags"
  | .matrixRow _ => "matrix row"
  | .edgeList _ => "edge list"
  | .vertexList _ => "vertex list"
  | .path _ => "path"

/-- The greatest count that a matrix cell may hold. -/
def maxCell : Nat := 0xFFFFFFFF

/-- The cell that a single digit writes. -/
def digitCell? (c : Char) : Option Nat :=
  if c.isDigit then some (c.toNat - '0'.toNat) else none

/-- The cell that a numeral writes, a plus sign allowed before it. -/
def numeralCell? (numeral : List Char) : Option Nat :=
  let ds :=
    match numeral with
    | '+' :: rest => rest
    | _ => numeral
  (readNat? ds).filter (· ≤ maxCell)

/-- The cells of a matrix row: the digits of a row without blanks inside, else its numerals. -/
def readRow? (text : List Char) : Option (List Nat) :=
  let row := trim text
  if row.any isBlank then (fields row).mapM numeralCell? else row.mapM digitCell?

/-- A line of digits and blanks. -/
def looksLikeRow (text : List Char) : Bool :=
  !text.isEmpty && text.all fun c => c.isDigit || isBlank c

/-- The flags of a line that is a hyphen and letters. -/
def readFlags? : List Char → Option Flags
  | '-' :: letters => if letters.contains '\n' then none else some (.ofLetters letters)
  | _ => none

/-- The groups of an edge list. -/
def groups? : List Token → Option (List (String × String))
  | .mark '(' :: .word a :: .mark ',' :: .word b :: .mark ')' :: rest =>
    let group := (String.ofList a, String.ofList b)
    match rest with
    | [] => some [group]
    | .mark ',' :: more => (groups? more).map (group :: ·)
    | more => (groups? more).map (group :: ·)
  | _ => none

/-- One name or more, with a separator between each two. -/
def names? (separator : Char) : List Token → Option (List String)
  | [.word a] => some [String.ofList a]
  | .word a :: .mark c :: rest =>
    if c = separator then (names? separator rest).map (String.ofList a :: ·) else none
  | _ => none

/-- The line that tokens spell, if it is an edge list, a vertex list or a path. -/
def Line.ofTokens? (ts : List Token) : Option Line :=
  (groups? ts).map .edgeList <|> (names? ',' ts).map .vertexList <|> (names? '-' ts).map .path

/-- The line that a text writes. `first` tells that it is the first one kept. -/
def Line.read? (first : Bool) (text : List Char) : Option Line :=
  match (if first then readFlags? text else none) with
  | some modes => some (.flags modes)
  | none =>
    -- a row that cannot be read is not tried as anything else
    if looksLikeRow text then (readRow? text).map .matrixRow
    else if trim text = text then Line.ofTokens? (tokens text)
    else none

end RingDiagram.Notation
