import RingDiagram.Decimal.Numeral
import RingDiagram.Drawing.Settings

/-!
# Arguments

Arguments are read from left to right. An option takes its value from the same argument, after an
equals sign or right after a short name, or from the next argument, which must then not begin with
a hyphen unless it is a lone one. Every option is given at most once. After `--` every argument is
an input file, and there is at most one of these. The first argument that breaks a rule decides,
unless the version or the help was asked for before it.
-/

namespace RingDiagram.CommandLine

open Decimal

/-- The options that take a value. -/
inductive Key where
  | output
  | width
  | height
  | radius
  | vertexRadius
  | edgeThickness
  | arrowSize
  | bendiness
  | background
  | vertexColor
  | edgeColor
  deriving DecidableEq, Repr, Inhabited

namespace Key

/-- The long name of an option. -/
def long : Key → String
  | output => "output"
  | width => "width"
  | height => "height"
  | radius => "radius"
  | vertexRadius => "vertex-radius"
  | edgeThickness => "edge-thickness"
  | arrowSize => "arrow-size"
  | bendiness => "bendiness"
  | background => "background"
  | vertexColor => "vertex-color"
  | edgeColor => "edge-color"

/-- The short name of an option that has one. -/
def short? : Key → Option Char
  | output => some 'o'
  | radius => some 'r'
  | bendiness => some 'b'
  | _ => none

/-- All options that take a value. -/
def all : List Key :=
  [output, width, height, radius, vertexRadius, edgeThickness, arrowSize, bendiness, background,
    vertexColor, edgeColor]

/-- The option's value is a text and not a number. -/
def isText : Key → Bool
  | output | background | vertexColor | edgeColor => true
  | _ => false

/-- The option of a long name. -/
def ofLong? (name : List Char) : Option Key :=
  all.find? fun key => key.long.toList == name

/-- The option of a short name. -/
def ofShort? (c : Char) : Option Key :=
  all.find? fun key => key.short? == some c

/-- Whether the option takes a value. -/
def accepts (key : Key) (value : String) : Bool :=
  key.isText || (readFloat? value).isSome

end Key

/-- Why arguments do not ask for a drawing. -/
inductive Stop where
  | version
  | help
  /-- The arguments break a rule. -/
  | misuse
  deriving DecidableEq, Repr, Inhabited

/-- What one argument is by itself. -/
inductive Argument where
  | input (name : String)
  | option (key : Key) (value : String)
  /-- An option whose value is the next argument. -/
  | awaiting (key : Key)
  | commands
  | version
  | help
  | unknown
  deriving DecidableEq, Repr, Inhabited

/-- What follows the first equals sign, and what stands before it. -/
def splitValue (text : List Char) : List Char × Option (List Char) :=
  match text.span (· != '=') with
  | (name, _ :: value) => (name, some value)
  | (name, []) => (name, none)

/-- An argument with two hyphens, which are left out here. -/
def Argument.ofLong (text : List Char) : Argument :=
  let (name, value?) := splitValue text
  match Key.ofLong? name, value? with
  | some key, some value => .option key (String.ofList value)
  | some key, none => .awaiting key
  | none, some _ => .unknown
  | none, none =>
    if name = "commands".toList then .commands
    else if name = "version".toList then .version
    else if name = "help".toList then .help
    else .unknown

/-- An argument with one hyphen, by its first letter and what follows. -/
def Argument.ofShort (c : Char) (rest : List Char) : Argument :=
  match Key.ofShort? c, rest with
  | some key, [] => .awaiting key
  -- the equals sign is no part of the value
  | some key, '=' :: value => .option key (String.ofList value)
  | some key, value => .option key (String.ofList value)
  | none, _ => if c = 'V' then .version else if c = 'h' then .help else .unknown

/-- What an argument is by itself. -/
def Argument.of (text : String) : Argument :=
  match text.toList with
  | '-' :: '-' :: rest => .ofLong rest
  | '-' :: c :: rest => .ofShort c rest
  | _ => .input text

/-- An argument that cannot be the separate value of an option. -/
def looksLikeOption (text : String) : Bool :=
  match text.toList with
  | '-' :: _ :: _ => true
  | _ => false

/-- The arguments read so far. -/
structure Arguments where
  input : Option String := none
  /-- The options with their values, the last one first. -/
  values : List (Key × String) := []
  commands : Bool := false
  deriving DecidableEq, Repr, Inhabited

namespace Arguments

/-- The value given for an option. -/
def value? (a : Arguments) (key : Key) : Option String :=
  a.values.lookup key

/-- The arguments with an input file. -/
def addInput (a : Arguments) (name : String) : Except Stop Arguments :=
  if a.input.isSome then .error .misuse else .ok { a with input := some name }

/-- The arguments with the value of an option. -/
def addValue (a : Arguments) (key : Key) (value : String) : Except Stop Arguments :=
  if (a.value? key).isSome || !key.accepts value then .error .misuse
  else .ok { a with values := (key, value) :: a.values }

/-- The arguments with the option to print commands. -/
def addCommands (a : Arguments) : Except Stop Arguments :=
  if a.commands then .error .misuse else .ok { a with commands := true }

/-- The arguments with those of a list. -/
def addAll (a : Arguments) : List String → Except Stop Arguments
  | [] => .ok a
  -- from here on hyphens mean nothing
  | "--" :: rest => rest.foldlM addInput a
  | text :: rest =>
    match Argument.of text with
    | .input name => do addAll (← a.addInput name) rest
    | .option key value => do addAll (← a.addValue key value) rest
    | .awaiting key =>
      match rest with
      | [] => .error .misuse
      | value :: rest =>
        -- a lone hyphen is a value like any other
        if looksLikeOption value then .error .misuse
        else do addAll (← a.addValue key value) rest
    | .commands => do addAll (← a.addCommands) rest
    | .version => .error .version
    | .help => .error .help
    | .unknown => .error .misuse

/-- The arguments of a command line. -/
def read (texts : List String) : Except Stop Arguments :=
  addAll {} texts

/-- The number given for an option, or the standard one. -/
def number (a : Arguments) (key : Key) (standard : Float) : Float :=
  ((a.value? key).bind readFloat?).getD standard

/-- The text given for an option, or the standard one. -/
def text (a : Arguments) (key : Key) (standard : String) : String :=
  (a.value? key).getD standard

/-- The width of the surface. -/
def width (a : Arguments) : Float :=
  a.number .width 300

/-- The height of the surface. -/
def height (a : Arguments) : Float :=
  a.number .height 300

/-- The settings that the options choose. -/
def settings (a : Arguments) : Settings Float :=
  let standard : Settings Float := .standard
  { background := a.text .background standard.background
    vertexColor := a.text .vertexColor standard.vertexColor
    edgeColor := a.text .edgeColor standard.edgeColor
    ringRadius := a.number .radius standard.ringRadius
    vertexRadius := a.number .vertexRadius standard.vertexRadius
    edgeThickness := a.number .edgeThickness standard.edgeThickness
    arrowSize := a.number .arrowSize standard.arrowSize
    bendiness := a.number .bendiness standard.bendiness }

end Arguments

end RingDiagram.CommandLine
