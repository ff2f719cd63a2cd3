import RingDiagram.Decimal.Remainder
import RingDiagram.Decimal.Shortest
import RingDiagram.Drawing.Surface
import RingDiagram.Drawing.Svg.Element

/-!
# SVG documents

A document is a surface that turns every command into an element. Coordinates have two decimal
places; the size of the document is written as shortly as it can be. An arc is a path whose sweep
flag is set, as angles grow clockwise on screen; an arc that sweeps next to nothing has no element.
-/

namespace RingDiagram.Svg

open Decimal Scalar

/-- A document of a given size with the elements drawn so far. -/
structure Document where
  width : Float
  height : Float
  elements : Array Element := #[]

/-- A coordinate or a length. -/
def coordinate (x : Float) : String :=
  fixedText 2 x

/-- Two coordinates with something between them. -/
def coordinates (between : String) (p : Point Float) : String :=
  coordinate p.x ++ between ++ coordinate p.y

/-- The attributes of a stroke. -/
def strokeAttributes (paint : String) (thickness : Float) : List Attribute :=
  [⟨"fill", "none"⟩, ⟨"stroke", paint⟩, ⟨"stroke-width", coordinate thickness⟩]

/-- The attributes that place a circle. -/
def circleAttributes (center : Point Float) (radius : Float) : List Attribute :=
  [⟨"cx", coordinate center.x⟩, ⟨"cy", coordinate center.y⟩, ⟨"r", coordinate radius⟩]

/-- The point of a circle at an angle. -/
def pointAt (center : Point Float) (radius angle : Float) : Point Float :=
  center + (Point.onUnitCircle angle).scale radius

/-- How far an arc goes clockwise from its first angle to its second. -/
def sweep (startAngle endAngle : Float) : Float :=
  positiveRemainder (endAngle - startAngle) tau

/-- The path of an arc, which goes the long way round when it sweeps more than half a turn. -/
def arcPath (center : Point Float) (radius startAngle endAngle : Float) : String :=
  let r := coordinate radius
  let large := if pi < sweep startAngle endAngle then "1" else "0"
  "M " ++ coordinates " " (pointAt center radius startAngle) ++ " A " ++ r ++ " " ++ r ++ " 0 " ++
    large ++ " 1 " ++ coordinates " " (pointAt center radius endAngle)

/-- The element of a command in a document of the given size. -/
def element? (width height : Float) : Command Float → Option Element
  | .background paint =>
    some ⟨"rect", [⟨"width", plainText width⟩, ⟨"height", plainText height⟩, ⟨"fill", paint⟩]⟩
  | .circle center radius paint =>
    some ⟨"circle", circleAttributes center radius ++ [⟨"fill", paint⟩]⟩
  | .line start finish paint thickness =>
    some ⟨"line",
      [⟨"x1", coordinate start.x⟩, ⟨"y1", coordinate start.y⟩, ⟨"x2", coordinate finish.x⟩,
        ⟨"y2", coordinate finish.y⟩] ++ strokeAttributes paint thickness⟩
  | .arc center radius startAngle endAngle paint thickness =>
    if sweep startAngle endAngle < tolerance then none
    else
      some ⟨"path",
        ⟨"d", arcPath center radius startAngle endAngle⟩ :: strokeAttributes paint thickness⟩
  | .ring center radius paint thickness =>
    some ⟨"circle", circleAttributes center radius ++ strokeAttributes paint thickness⟩
  | .polygon points paint =>
    some ⟨"polygon",
      [⟨"points", " ".intercalate (points.map (coordinates ","))⟩, ⟨"fill", paint⟩]⟩

namespace Document

/-- The element that holds all others. -/
def root (d : Document) : Element :=
  let width := plainText d.width
  let height := plainText d.height
  ⟨"svg",
    [⟨"xmlns", "http://www.w3.org/2000/svg"⟩, ⟨"width", width⟩, ⟨"height", height⟩,
      ⟨"viewBox", "0 0 " ++ width ++ " " ++ height⟩]⟩

/-- The document with the element of one more command, if it has one. -/
def add (d : Document) (command : Command Float) : Document :=
  match element? d.width d.height command with
  | some e => { d with elements := d.elements.push e }
  | none => d

/-- Adds the element of a command that is finite. -/
def draw (command : Command Float) : EStateM SurfaceError Document Unit := fun d =>
  match command.requireFinite with
  | .error e => .error e d
  | .ok () => .ok () (d.add command)

instance : Surface Document Float where
  size d := (d.width, d.height)
  draw := draw

/-- The lines of a document: the tag that opens it, its elements, and the tag that closes it. -/
def lines (d : Document) : List (List Char) :=
  d.root.openTag :: (d.elements.toList.map Element.write ++ ["</svg>".toList])

/-- The text of a document. -/
def text (d : Document) : String :=
  String.ofList (d.lines.flatMap (· ++ ['\n']))

end Document

end RingDiagram.Svg

namespace RingDiagram

/-- The SVG document of the graph that a source text denotes. -/
def Svg.ofSource (source : String) (settings : Settings Float) (width height : Float) :
    Except Failure String :=
  match drawSource source settings { width, height : Svg.Document } with
  | .ok _ document => .ok document.text
  | .error e _ => .error e

/-- The SVG document of a source text with nothing chosen. -/
def Svg.ofSourceStandard (source : String) : Except Failure String :=
  Svg.ofSource source .standard 300 300

/-- The SVG document of a source text with a chosen size, ring radius and bendiness. -/
def Svg.ofSourceSized (source : String) (width height ringRadius bendiness : Float) :
    Except Failure String :=
  Svg.ofSource source { Settings.standard with ringRadius, bendiness } width height

end RingDiagram
