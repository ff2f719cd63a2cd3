/-!
# Hosts

The program meets its surroundings through a host: it reads one text, from a file or from the
standard input, and writes at most one file. Each of these may fail, and says how.
-/

namespace RingDiagram.CommandLine

/-- The ways in which reading or writing fails. -/
inductive FileError where
  | missing
  | accessDenied
  | isDirectory
  | notDirectory
  | nameTooLong
  | noSpace
  /-- The bytes are not a text. -/
  | notText
  /-- Any other reason, with the system's text and number for it. -/
  | system (reason : String) (code : Nat)
  deriving DecidableEq, Repr, Inhabited

/-- The text of a fault with the system's number for it. -/
def systemMessage (reason : String) (code : Nat) : String :=
  s!"{reason} (os error {code})"

/-- The text shown for a failure. -/
def FileError.message : FileError → String
  | .missing => systemMessage "No such file or directory" 2
  | .accessDenied => systemMessage "Permission denied" 13
  | .isDirectory => systemMessage "Is a directory" 21
  | .notDirectory => systemMessage "Not a directory" 20
  | .nameTooLong => systemMessage "File name too long" 36
  | .noSpace => systemMessage "No space left on device" 28
  | .notText => "stream did not contain valid UTF-8"
  | .system reason code => systemMessage reason code

/-- The surroundings of the program. -/
structure Host (m : Type → Type) where
  /-- The text of a file. -/
  readFile : String → m (Except FileError String)
  /-- The text on the standard input. -/
  readInput : m (Except FileError String)
  /-- Puts a text into a file, which is made if there is none. -/
  writeFile : String → String → m (Except FileError Unit)

end RingDiagram.CommandLine
