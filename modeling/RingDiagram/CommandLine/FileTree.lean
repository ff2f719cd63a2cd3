import RingDiagram.CommandLine.Host

/-!
# File trees as hosts

A file tree is a host without any effect beyond itself: texts in folders, the folder that the
program works in, and the bytes on its standard input. Around the working folder stand the folders
and the devices that every system has.

A path is followed name by name. Each step leaves a folder, so a path through a text ends there,
and a path through nothing leads nowhere; two dots lead to the folder around, which of the root is
the root itself. A slash at the end asks for a folder.
-/

namespace RingDiagram.CommandLine

/-- A place in a tree by the names that lead to it from the root, the innermost name first. -/
abbrev Location := List String

/-- What stands behind a name that is neither a folder nor a text. -/
inductive Device where
  /-- Takes everything and holds nothing. -/
  | sink
  /-- Takes nothing. -/
  | full
  /-- The standard input. -/
  | input
  /-- The standard output. -/
  | output
  /-- The standard error. -/
  | errors
  deriving DecidableEq, Repr, Inhabited

/-- What stands at a location. -/
inductive Entry where
  | folder
  | text (content : String)
  | device (device : Device)
  deriving DecidableEq, Repr, Inhabited

/-- The names of a path between its slashes. -/
def namesOf (path : String) : List String :=
  (path.toList.splitOn '/').map String.ofList

/-- The location that the names of a path lead to from a folder. -/
def Location.below (folder : Location) (path : String) : Location :=
  (namesOf path).reverse ++ folder

/-- The folders that every system has. -/
def standardFolders : List Location :=
  ["bin", "boot", "dev", "dev/fd", "dev/pts", "dev/shm", "etc", "home", "lib", "media", "mnt",
    "opt", "proc", "proc/self", "proc/self/fd", "root", "run", "sbin", "srv", "sys", "tmp", "usr",
    "usr/bin", "usr/lib", "usr/local", "usr/sbin", "usr/share", "var", "var/cache", "var/lib",
    "var/log", "var/tmp"].map (Location.below [])

/-- The devices that every system has. -/
def standardDevices : List (Location × Device) :=
  [("dev/null", Device.sink), ("dev/full", .full), ("dev/stdin", .input), ("dev/fd/0", .input),
    ("proc/self/fd/0", .input), ("dev/stdout", .output), ("dev/fd/1", .output),
    ("proc/self/fd/1", .output), ("dev/stderr", .errors), ("dev/fd/2", .errors),
    ("proc/self/fd/2", .errors)].map fun d => (Location.below [] d.1, d.2)

/-- The folder that programs work in. Its own name is not known, so it is one that no path can
spell. -/
def workingFolder : Location := ["", "tmp"]

/-- Texts by location, and what stands on the standard streams. -/
structure FileTree where
  files : List (Location × String) := []
  input : ByteArray := .empty
  /-- What was written to the device of the standard output. -/
  printed : String := ""
  /-- What was written to the device of the standard error. -/
  reported : String := ""

namespace FileTree

/-- The tree with the given texts in the working folder. -/
def ofFiles (files : List (String × String)) (input : ByteArray) : FileTree :=
  { files := files.map fun f => (workingFolder.below f.1, f.2), input }

/-- A text inside the location makes it a folder. -/
def isFolder (t : FileTree) (l : Location) : Bool :=
  l.isSuffixOf workingFolder || standardFolders.contains l ||
    t.files.any fun f => l != f.1 && l.isSuffixOf f.1

/-- What stands at a location, if anything does. -/
def entry? (t : FileTree) (l : Location) : Option Entry :=
  match t.files.lookup l with
  | some content => some (.text content)
  | none =>
    if t.isFolder l then some .folder else (standardDevices.lookup l).map .device

/-- Longer names are refused. -/
def maxNameBytes : Nat := 255

/-- Longer paths are refused. -/
def maxPathBytes : Nat := 4095

/-- The location that a name leads to from another one, which must be a folder. Nothing need stand
there. -/
def step (t : FileTree) (l : Location) (name : String) : Except FileError Location :=
  match t.entry? l with
  | none => .error .missing
  | some .folder =>
    if name = "" ∨ name = "." then .ok l
    -- around the root there is the root itself
    else if name = ".." then .ok l.tail
    else if maxNameBytes < name.utf8ByteSize then .error .nameTooLong
    else .ok (name :: l)
  | some _ => .error .notDirectory

/-- The names of a path, if it may be followed at all. -/
def names? (path : String) : Except FileError (List String) :=
  if path.isEmpty then .error .missing
  else if maxPathBytes < path.utf8ByteSize then .error .nameTooLong
  else .ok (namesOf path)

/-- The location that the names of a path lead to. A path that begins with a slash starts at the
root. -/
def follow (t : FileTree) (names : List String) : Except FileError Location :=
  names.foldlM t.step (if names.head? = some "" then [] else workingFolder)

/-- The location that the names of a path ask to write at. With a slash at the end only a folder can
be meant; the one around it stands for it, as no folder can be written. -/
def target (t : FileTree) (names : List String) : Except FileError Location :=
  let bare := (names.reverse.dropWhile (· = "")).reverse
  match bare.getLast? with
  | none => .ok []
  | some last => do
    let around ← t.follow bare.dropLast
    -- no name is a step that stays where it is, and asks for a folder all the same
    t.step around (if bare.length < names.length then "" else last)

/-- The tree in which a text stands at the location. -/
def put (t : FileTree) (l : Location) (text : String) : FileTree :=
  { t with files := (l, text) :: t.files.filter (·.1 != l) }

/-- The text on the standard input. -/
def readInput (t : FileTree) : Except FileError String :=
  match String.fromUTF8? t.input with
  | some text => .ok text
  | none => .error .notText

/-- The tree after a text was given to a device. -/
def feed (t : FileTree) (text : String) : Device → Except FileError FileTree
  | .sink | .input => .ok t
  | .full => .error .noSpace
  | .output => .ok { t with printed := t.printed ++ text }
  | .errors => .ok { t with reported := t.reported ++ text }

/-- Reads what stands at a path. -/
def readFile (t : FileTree) (path : String) : Except FileError String := do
  match t.entry? (← t.follow (← names? path)) with
  | none => .error .missing
  | some .folder => .error .isDirectory
  | some (.text content) => .ok content
  | some (.device .input) => t.readInput
  -- of the other devices nothing can be read
  | some (.device _) => .ok ""

/-- Writes a text at a path. -/
def writeFile (t : FileTree) (path text : String) : Except FileError FileTree := do
  let l ← t.target (← names? path)
  match t.entry? l with
  | some .folder => .error .isDirectory
  | some (.device device) => t.feed text device
  -- a text that stands there already is replaced
  | _ => .ok (t.put l text)

/-- The texts in the working folder, each by the path to it. -/
def workingFiles (t : FileTree) : List (String × String) :=
  t.files.filterMap fun f =>
    if workingFolder.isSuffixOf f.1 then
      -- a location begins with its innermost name, a path ends with it
      let names := f.1.take (f.1.length - workingFolder.length)
      some ("/".intercalate names.reverse, f.2)
    else none

end FileTree

/-- The host that a file tree is. -/
def treeHost : Host (StateM FileTree) where
  readFile path := do return (← get).readFile path
  readInput := do return (← get).readInput
  writeFile path text := do
    match (← get).writeFile path text with
    | .error e => return .error e
    | .ok t =>
      set t
      return .ok ()

end RingDiagram.CommandLine
