import RingDiagram.Decimal.Shortest
import RingDiagram.Drawing.Command
import RingDiagram.Text.Quoted

/-!
# Descriptions of commands

A command is described on one line as a record with named fields: numbers with a point or an
exponent, paints quoted. Quoting leaves no line break in a paint.
-/

namespace RingDiagram

open Decimal Text

/-- A record with named fields. -/
def describeRecord (name : String) (fields : List (String × String)) : String :=
  name ++ " \x7b " ++ ", ".intercalate (fields.map fun f => f.1 ++ ": " ++ f.2) ++ " \x7d"

/-- The description of a point. -/
def Point.describe (p : Point Float) : String :=
  describeRecord "Point" [("x", preciseText p.x), ("y", preciseText p.y)]

/-- The description of a command. -/
def Command.describe : Command Float → String
  | background paint => describeRecord "Background" [("paint", quoted paint)]
  | circle center radius paint =>
    describeRecord "Circle"
      [("center", center.describe), ("radius", preciseText radius), ("paint", quoted paint)]
  | line start finish paint thickness =>
    describeRecord "Line"
      [("from", start.describe), ("to", finish.describe), ("paint", quoted paint),
        ("thickness", preciseText thickness)]
  | arc center radius startAngle endAngle paint thickness =>
    describeRecord "Arc"
      [("center", center.describe), ("radius", preciseText radius),
        ("start_angle", preciseText startAngle), ("end_angle", preciseText endAngle),
        ("paint", quoted paint), ("thickness", preciseText thickness)]
  | ring center radius paint thickness =>
    describeRecord "Ring"
      [("center", center.describe), ("radius", preciseText radius), ("paint", quoted paint),
        ("thickness", preciseText thickness)]
  | polygon points paint =>
    describeRecord "Polygon"
      [("points", "[" ++ ", ".intercalate (points.map Point.describe) ++ "]"),
        ("paint", quoted paint)]

end RingDiagram
