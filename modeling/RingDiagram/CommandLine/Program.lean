import RingDiagram.CommandLine.Arguments
import RingDiagram.CommandLine.Host
import RingDiagram.Drawing.Canvas
import RingDiagram.Drawing.Description
import RingDiagram.Drawing.Svg.Document

/-!
# The program

One run reads a notation, draws it, and puts the whole result either into the output file or on the
standard output. When anything fails nothing is written, and the standard error says why.
-/

namespace RingDiagram.CommandLine

/-- What a run shows: its exit code and what it prints. -/
structure Outcome where
  exitCode : Nat
  output : String
  errors : String
  deriving DecidableEq, Repr, Inhabited

/-- The name and the version of the program. -/
def versionLine : String := "circle-graph 0.1.0\n"

/-- How the program is used. -/
def usageText : String :=
  "Render a compact graph description as vertices on a circle\n\n" ++
    "Usage: circle-graph [OPTIONS] [INPUT]\n\n" ++
    "Options:\n" ++
    "  -o, --output <OUTPUT>\n" ++
    "      --width <WIDTH>\n" ++
    "      --height <HEIGHT>\n" ++
    "  -r, --radius <BIG_RADIUS>\n" ++
    "      --vertex-radius <VERTEX_RADIUS>\n" ++
    "      --edge-thickness <EDGE_THICKNESS>\n" ++
    "      --arrow-size <ARROW_SIZE>\n" ++
    "  -b, --bendiness <BENDINESS>\n" ++
    "      --background <BACKGROUND>\n" ++
    "      --vertex-color <VERTEX_COLOR>\n" ++
    "      --edge-color <EDGE_COLOR>\n" ++
    "      --commands\n" ++
    "  -h, --help\n" ++
    "  -V, --version\n"

/-- The line that asks to report a broken invariant. -/
def reportLine : String :=
  "this looks like a bug in circle-graph; please report it with the input that caused it\n"

/-- A run that failed for a given reason. -/
def failure (reason : String) : Outcome :=
  ⟨1, "", "error: " ++ reason ++ "\n"⟩

/-- A run that failed to draw. -/
def drawingFailure (e : Failure) : Outcome :=
  let outcome := failure e.message
  match e.blame with
  -- what the input is to blame for needs no report
  | .input => outcome
  | .program => { outcome with errors := outcome.errors ++ reportLine }

/-- The run that does not ask for a drawing. -/
def Stop.outcome : Stop → Outcome
  | .version => ⟨0, versionLine, ""⟩
  | .help => ⟨0, usageText, ""⟩
  | .misuse => ⟨2, "", usageText⟩

/-- The commands that draw a source text, each described on a line of its own. -/
def describeCommands (source : String) (settings : Settings Float) (width height : Float) :
    Except Failure String :=
  match drawSource source settings { width, height : Canvas Float } with
  | .ok _ canvas => .ok (String.join (canvas.commands.toList.map fun c => c.describe ++ "\n"))
  | .error e _ => .error e

/-- The result that the arguments ask for. -/
def Arguments.draw (a : Arguments) (source : String) : Except Failure String :=
  if a.commands then describeCommands source a.settings a.width a.height
  else Svg.ofSource source a.settings a.width a.height

section Run

variable {m : Type → Type} [Monad m] (host : Host m)

/-- The source text, or the reason why there is none. -/
def Arguments.source (a : Arguments) : m (Except String String) := do
  match a.input with
  | some path =>
    return (← host.readFile path).mapError fun e => s!"cannot read '{path}': {e.message}"
  | none => return (← host.readInput).mapError fun e => s!"cannot read stdin: {e.message}"

/-- Puts a result where the arguments ask for. -/
def Arguments.deliver (a : Arguments) (result : String) : m Outcome := do
  match a.value? .output with
  | some path =>
    match ← host.writeFile path result with
    | .ok () => return ⟨0, "", ""⟩
    | .error e => return failure s!"cannot write '{path}': {e.message}"
  | none => return ⟨0, result, ""⟩

/-- A run with the given arguments. -/
def run (texts : List String) : m Outcome := do
  match Arguments.read texts with
  | .error stop => return stop.outcome
  | .ok a =>
    match ← a.source host with
    | .error reason => return failure reason
    | .ok source =>
      -- the whole result is there before any of it is written
      match a.draw source with
      | .error e => return drawingFailure e
      | .ok result => a.deliver host result

end Run

end RingDiagram.CommandLine
