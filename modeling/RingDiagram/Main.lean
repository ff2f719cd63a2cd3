import RingDiagram.CommandLine.Program

/-!
# The command line

The outer layer: files, standard streams and the exit code of the operating system.
-/

namespace RingDiagram.CommandLine

/-- The failure that an error of the system stands for. -/
def FileError.ofSystem : IO.Error → FileError
  | .noFileOrDirectory .. => .missing
  | .permissionDenied .. => .accessDenied
  | .inappropriateType _ code reason =>
    -- numbers that the system gives its errors: 20 and 21 for folders, 28 for space, 36 for names
    if code = 21 then .isDirectory else if code = 20 then .notDirectory
    else .system reason code.toNat
  | .invalidArgument _ code reason =>
    if code = 36 then .nameTooLong else .system reason code.toNat
  | .resourceExhausted _ code reason =>
    if code = 28 then .noSpace else .system reason code.toNat
  | .otherError code reason => .system reason code.toNat
  | e => .system (toString e) 0

/-- The result of an action, its error as a failure. -/
def attempt {α : Type} (action : IO α) : IO (Except FileError α) :=
  try Except.ok <$> action
  catch e => return .error (.ofSystem e)

/-- The text that bytes encode. -/
def textOfBytes (bytes : ByteArray) : Except FileError String :=
  match String.fromUTF8? bytes with
  | some text => .ok text
  | none => .error .notText

/-- The operating system as a host. -/
def systemHost : Host IO where
  readFile path := return (← attempt (IO.FS.readBinFile path)).bind textOfBytes
  readInput := do
    let input ← IO.getStdin
    let rec bytes : IO ByteArray := do
      let mut all := ByteArray.empty
      repeat
        let more ← input.read 65536
        if more.isEmpty then break
        all := all ++ more
      return all
    return (← attempt bytes).bind textOfBytes
  writeFile path text := attempt (IO.FS.writeFile path text)

end RingDiagram.CommandLine

open RingDiagram.CommandLine in
/-- Runs the program on the operating system. -/
def main (texts : List String) : IO UInt32 := do
  let outcome ← run systemHost texts
  -- the streams are written when the run is over
  (← IO.getStdout).putStr outcome.output
  (← IO.getStderr).putStr outcome.errors
  return outcome.exitCode.toUInt32
