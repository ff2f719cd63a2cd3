/-!
# Errors

What can go wrong, by cause, with the text shown for it. A parse error belongs to the notation, a
surface error to a drawing target, a render error to laying out and drawing a graph; a `Failure`
is an error of either of the two stages. `Blame` tells faults of the input from broken invariants
of the program.
-/

namespace RingDiagram

/-- The half of the work in which an error arose. -/
inductive Stage where
  | parse
  | render
  deriving DecidableEq, Repr, Inhabited

/-- Whether the input or the program is at fault. -/
inductive Blame where
  | input
  | program
  deriving DecidableEq, Repr, Inhabited

/-- The faults of an adjacency matrix. Rows, columns and vertices are counted from one. -/
inductive MatrixFault where
  /-- The matrix is not square over the `expected` visible vertices. -/
  | wrongSize (expected rows width : Nat)
  /-- The cell of an undirected matrix differs from the one across the diagonal. -/
  | asymmetric (row column : Nat)
  /-- A diagonal cell of an undirected matrix is odd. -/
  | oddLoop (vertex : Nat)
  /-- The matrix stands for more edges than it may. -/
  | tooManyEdges (limit : Nat)
  deriving DecidableEq, Repr, Inhabited

/-- The text shown for a fault of a matrix. -/
def MatrixFault.message : MatrixFault → String
  | .wrongSize expected rows width =>
    s!"adjacency matrix must be {expected}x{expected}, found {rows} row(s) of width {width}"
  | .asymmetric row column =>
    "adjacency matrix of an undirected graph must be symmetrical " ++
      s!"(row {row}, column {column})"
  | .oddLoop vertex =>
    s!"vertex {vertex} must connect to itself an even amount of times in an undirected " ++
      "adjacency matrix"
  | .tooManyEdges limit => s!"adjacency matrix expands to more than {limit} edges"

/-- The faults of a notation. Lines are counted from one. -/
inductive ParseError where
  /-- An edge names a vertex that no line has declared. -/
  | unknownVertex (name : String) (line : Nat)
  /-- The line has none of the forms of the notation. -/
  | unreadableLine (line : Nat)
  /-- The line brings together a matrix and another way to give edges. -/
  | mixedWithMatrix (line : Nat)
  /-- The matrix does not stand for edges. -/
  | matrix (fault : MatrixFault)
  /-- An invariant of the reader is broken. -/
  | broken (text : String)
  deriving DecidableEq, Repr, Inhabited

/-- The text shown for a parse error. -/
def ParseError.message : ParseError → String
  | .unknownVertex name line =>
    s!"line {line}: vertex '{name}' is not defined (declare it first or use the 'a' flag)"
  | .unreadableLine line => s!"line {line} is not valid"
  | .mixedWithMatrix line =>
    s!"line {line}: an adjacency matrix cannot be combined with other edge definitions"
  | .matrix fault => fault.message
  | .broken text => s!"internal parser error: {text}"

/-- Only a broken invariant is not the fault of the input. -/
def ParseError.blame : ParseError → Blame
  | .broken _ => .program
  | _ => .input

/-- The kinds of drawing commands. -/
inductive CommandKind where
  | background
  | circle
  | line
  | arc
  | ring
  | polygon
  deriving DecidableEq, Repr, Inhabited

/-- The name of a kind of drawing commands. -/
def CommandKind.name : CommandKind → String
  | .background => "background"
  | .circle => "circle"
  | .line => "line"
  | .arc => "arc"
  | .ring => "ring"
  | .polygon => "polygon"

/-- The faults of a drawing target. -/
inductive SurfaceError where
  /-- There is nothing to draw on. -/
  | unavailable (reason : String)
  /-- The geometry of a command is not finite. -/
  | notFinite (kind : CommandKind)
  deriving DecidableEq, Repr, Inhabited

/-- The text shown for a surface error. -/
def SurfaceError.message : SurfaceError → String
  | .unavailable reason => s!"could not obtain a drawing context: {reason}"
  | .notFinite kind => s!"non-finite coordinate in {kind.name} command"

/-- The faults of laying out and drawing a graph. -/
inductive RenderError where
  /-- An edge ends at a vertex that is never drawn. -/
  | endsAtInvisible (name : String)
  /-- An edge refers to a vertex beyond the `count` there are. -/
  | noSuchVertex (index count : Nat)
  /-- The ends of a bent edge and its anchor lie on no circle. -/
  | noArc (source target : Nat)
  /-- The drawing target refused a command. -/
  | surface (error : SurfaceError)
  deriving DecidableEq, Repr, Inhabited

/-- The text shown for a render error. -/
def RenderError.message : RenderError → String
  | .endsAtInvisible name => s!"edges may not connect to invisible vertices ('{name}')"
  | .noSuchVertex index count =>
    s!"edge references vertex {index} but only {count} vertices exist"
  | .noArc source target => s!"could not fit an arc for edge {source} -> {target}"
  | .surface error => error.message

/-- Only an edge to an invisible vertex is the fault of the input. -/
def RenderError.blame : RenderError → Blame
  | .endsAtInvisible _ => .input
  | _ => .program

/-- An error of either stage. -/
inductive Failure where
  | parse (error : ParseError)
  | render (error : RenderError)
  deriving DecidableEq, Repr, Inhabited

namespace Failure

/-- The text shown for a failure, the stage first. -/
def message : Failure → String
  | .parse error => s!"parse error: {error.message}"
  | .render error => s!"render error: {error.message}"

/-- The stage that failed. -/
def stage : Failure → Stage
  | .parse _ => .parse
  | .render _ => .render

/-- A failure is to blame on what its error is. -/
def blame : Failure → Blame
  | .parse error => error.blame
  | .render error => error.blame

end Failure

end RingDiagram
