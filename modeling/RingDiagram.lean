import RingDiagram.Text.Blank
import RingDiagram.Text.WordChar
import RingDiagram.Text.Quoted
import RingDiagram.Decimal.Shortest
import RingDiagram.Decimal.Numeral
import RingDiagram.Graph.Flags
import RingDiagram.Graph.Edge
import RingDiagram.Graph.Model
import RingDiagram.Graph.AdjacencyMatrix
import RingDiagram.Graph.Network
import RingDiagram.Notation.KeptLine
import RingDiagram.Notation.Token
import RingDiagram.Notation.Line
import RingDiagram.Notation.Reading
import RingDiagram.Notation.Printer
import RingDiagram.Geometry.Scalar
import RingDiagram.Geometry.Point
import RingDiagram.Geometry.Circle
import RingDiagram.Layout.Bend
import RingDiagram.Layout.Ring
import RingDiagram.Layout.Route
import RingDiagram.Layout.Basic
import RingDiagram.Drawing.Painting
import RingDiagram.Drawing.Canvas
import RingDiagram.Drawing.Svg.Document
import RingDiagram.Drawing.Description
import RingDiagram.CommandLine.FileTree
import RingDiagram.Main
import RingDiagram.Proofs.Outcome
import RingDiagram.Proofs.Text.Trim
import RingDiagram.Proofs.Text.Legible
import RingDiagram.Proofs.Decimal.Writing
import RingDiagram.Proofs.Graph.Expansion
import RingDiagram.Proofs.Graph.Multiplicity
import RingDiagram.Proofs.Graph.Loading
import RingDiagram.Proofs.Graph.Endpoints
import RingDiagram.Proofs.Graph.Transposition
import RingDiagram.Proofs.Graph.Scan
import RingDiagram.Proofs.Graph.Visibility
import RingDiagram.Proofs.Notation.Spelling
import RingDiagram.Proofs.Notation.Forms
import RingDiagram.Proofs.Notation.Grammar
import RingDiagram.Proofs.Notation.Reference
import RingDiagram.Proofs.Notation.RoundTrip
import RingDiagram.Proofs.Notation.Listing
import RingDiagram.Proofs.Notation.MatrixSource
import RingDiagram.Proofs.Notation.Contract
import RingDiagram.Proofs.Notation.Faults
import RingDiagram.Proofs.Notation.Contents
import RingDiagram.Proofs.Notation.Rows
import RingDiagram.Proofs.Layout.History
import RingDiagram.Proofs.Drawing.Atomicity
import RingDiagram.Proofs.Drawing.Sources
import RingDiagram.Proofs.Drawing.Lines
import RingDiagram.Proofs.Notation.FirstFault
import RingDiagram.Proofs.Layout.Routing
import RingDiagram.Proofs.Layout.FirstEdges
import RingDiagram.Proofs.Drawing.Commands
import RingDiagram.Proofs.Drawing.Simplification
import RingDiagram.Proofs.Layout.Rearrangement
import RingDiagram.Proofs.Notation.Renumbering
import RingDiagram.Proofs.Notation.Edits
import RingDiagram.Proofs.Notation.FlagLetters
import RingDiagram.Proofs.Notation.ChangedFlags
import RingDiagram.Proofs.Notation.Flipping
import RingDiagram.Proofs.Drawing.Svg.Escaping
import RingDiagram.Proofs.Drawing.Svg.Reader
import RingDiagram.Proofs.Drawing.Svg.Elements
import RingDiagram.Proofs.Drawing.Agreement
import RingDiagram.Proofs.Drawing.Svg.Containment
import RingDiagram.Proofs.Geometry.Exact
import RingDiagram.Proofs.Layout.Parallel
import RingDiagram.Proofs.Layout.Crowding
import RingDiagram.Proofs.Layout.Arcs
import RingDiagram.Proofs.Layout.Headings
import RingDiagram.Proofs.Drawing.Blame
import RingDiagram.Proofs.Drawing.Arrowheads
import RingDiagram.Proofs.CommandLine.Runs
import RingDiagram.Proofs.CommandLine.Options
import RingDiagram.Proofs.CommandLine.EntryPoints
import RingDiagram.Proofs.Drawing.Naming
import RingDiagram.Proofs.Decimal.Finite
import RingDiagram.Proofs.Drawing.Svg.Numerals
import RingDiagram.Proofs.Notation.Paths
import RingDiagram.Proofs.Notation.Declaring
import RingDiagram.Proofs.Geometry.Tangency
import RingDiagram.Proofs.Layout.Loops
import RingDiagram.Proofs.Layout.Balance
