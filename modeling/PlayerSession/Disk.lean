import PlayerSession.Bytes
import PlayerSession.Text.Pieces

/-! A disk as a value: the directories and files at their places, and the working directory.  Paths are
texts.  They are walked from the root or from the working directory, one component after the other;
`.` and `..` are followed through the entries that are there. -/

namespace PlayerSession

/-- Why an operation on a disk fails. -/
inductive DiskFault where
  | notFound
  | exists
  | notDirectory
  | isDirectory
  | nameTooLong
  /-- The path holds a null character. -/
  | nullInName
  /-- The bytes that were read are no text. -/
  | notText
  deriving DecidableEq

def DiskFault.message : DiskFault → String
  | .notFound => "No such file or directory (os error 2)"
  | .exists => "File exists (os error 17)"
  | .notDirectory => "Not a directory (os error 20)"
  | .isDirectory => "Is a directory (os error 21)"
  | .nameTooLong => "File name too long (os error 36)"
  | .nullInName => "file name contained an unexpected NUL byte"
  | .notText => "stream did not contain valid UTF-8"

inductive Entry where
  | directory
  | file (content : Bytes)
  deriving DecidableEq

/-- A place on a disk: the names on the way to it from the root. -/
abbrev Place := List String

/-- The entries of a disk other than its root, which is a directory, and the working directory. -/
structure Disk where
  entries : List (Place × Entry) := []
  here : Place := []

/-- A path taken apart: whether it starts at the root, and its components, none of them empty.
`directory` says that the path ends with a slash, so that only a directory can be meant. -/
structure Path where
  absolute : Bool
  components : List String
  directory : Bool
  deriving DecidableEq

namespace Path

/-- Takes a path apart.  A path has fewer than 4096 bytes. -/
def ofText (s : String) : Except DiskFault Path :=
  if '\x00' ∈ s.toList then .error .nullInName
  else if s = "" then .error .notFound
  else if 4096 ≤ s.utf8ByteSize then .error .nameTooLong
  else .ok {
    absolute := s.toList.head? = some '/'
    components := (Text.split '/' s).filter (· ≠ "")
    directory := s.toList.getLast? = some '/' }

/-- The path up to its last component, if it has one.  A `.` counts only at the front of a path that
does not start at the root; the path up to the only component is empty. -/
def parent (p : Path) : Path :=
  let named := match p.components with
    | "." :: rest => (if p.absolute then [] else ["."]) ++ rest.filter (· ≠ ".")
    | all => all.filter (· ≠ ".")
  ⟨p.absolute, named.dropLast, false⟩

/-- The path `base` with the name `name` behind it. -/
def join (base name : String) : String :=
  if base = "" then name
  else if base.toList.getLast? = some '/' then base ++ name
  else base ++ "/" ++ name

end Path

namespace Disk

def entry? (d : Disk) (place : Place) : Option Entry :=
  if place = [] then some .directory else d.entries.lookup place

/-- The disk with `e` at a place. -/
def set (d : Disk) (place : Place) (e : Entry) : Disk :=
  { d with entries := (place, e) :: d.entries.filter (·.1 ≠ place) }

/-- The disk with nothing at a place. -/
def clear (d : Disk) (place : Place) : Disk :=
  { d with entries := d.entries.filter (·.1 ≠ place) }

/-- Requires a directory at a place where one is passed through. -/
def requireDirectory (d : Disk) (place : Place) : Except DiskFault Unit :=
  match d.entry? place with
  | some .directory => .ok ()
  | some (.file _) => .error .notDirectory
  | none => .error .notFound

/-- Requires a name to have at most 255 bytes. -/
def requireName (name : String) : Except DiskFault Unit :=
  if 255 < name.utf8ByteSize then .error .nameTooLong else .ok ()

/-- The place that a list of components leads to from another place.  Something is there. -/
def walk (d : Disk) (place : Place) : List String → Except DiskFault Place
  | [] => .ok place
  | c :: rest => do
    d.requireDirectory place
    if c = "." then d.walk place rest
    else if c = ".." then d.walk place.dropLast rest
    else
      requireName c
      if (d.entry? (place ++ [c])).isSome then d.walk (place ++ [c]) rest else throw .notFound

/-- Where the walk along a path begins. -/
def start (d : Disk) (p : Path) : Place := if p.absolute then [] else d.here

/-- The entry that a path leads to. -/
def find (d : Disk) (path : String) : Except DiskFault Entry := do
  let p ← Path.ofText path
  let place ← d.walk (d.start p) p.components
  if p.directory then d.requireDirectory place
  match d.entry? place with
  | some e => return e
  | none => throw .notFound

/-- Whether a path leads to a directory. -/
def isDirectory (d : Disk) (path : String) : Bool :=
  match d.find path with
  | .ok .directory => true
  | _ => false

/-- The content of the file that a path leads to. -/
def read (d : Disk) (path : String) : Except DiskFault Bytes := do
  match ← d.find path with
  | .file content => return content
  | .directory => throw .isDirectory

/-- The text of the file that a path leads to. -/
def readText (d : Disk) (path : String) : Except DiskFault String := do
  match (← d.read path).text? with
  | some s => return s
  | none => throw .notText

/-! ### Directories -/

/-- Makes one directory.  Nothing may be there yet, and the directory around it must be there. -/
def makeDirectory (d : Disk) (p : Path) : Except DiskFault Disk :=
  match p.components.getLast? with
  | none => throw (if p.absolute then .exists else .notFound)
  | some name => do
    let place ← d.walk (d.start p) p.components.dropLast
    d.requireDirectory place
    if name = "." ∨ name = ".." then throw .exists
    requireName name
    if (d.entry? (place ++ [name])).isSome then throw .exists
    return d.set (place ++ [name]) .directory

/-- Whether there is a directory where a path leads to, the path being taken apart already. -/
def holdsDirectory (d : Disk) (p : Path) : Bool :=
  match d.walk (d.start p) p.components with
  | .ok place => d.entry? place = some .directory
  | .error _ => false

/-- Makes a directory unless it is there already. -/
def ensureDirectory (d : Disk) (p : Path) : Except DiskFault Disk :=
  match d.makeDirectory p with
  | .ok d => .ok d
  | .error fault => if d.holdsDirectory p then .ok d else .error fault

/-- Makes a directory and those around it, unless they are there already.  `depth` bounds the number of
directories to be made. -/
def ensureDirectories (d : Disk) (p : Path) : Nat → Except DiskFault Disk
  | 0 => .ok d
  | depth + 1 =>
    if p.components = [] ∧ ¬ p.absolute then .ok d
    else
      match d.ensureDirectory p with
      | .error .notFound => do (← d.ensureDirectories p.parent depth).ensureDirectory p
      | outcome => outcome

/-- Makes the directory that a path leads to, and those around it, unless they are there already.  An
empty path asks for nothing. -/
def createDirectories (d : Disk) (path : String) : Except DiskFault Disk := do
  if path = "" then return d
  let p ← Path.ofText path
  d.ensureDirectories p (p.components.length + 1)

/-! ### Files -/

/-- The place of a file that is to be written, in a directory that is there. -/
def placeForFile (d : Disk) (path : String) : Except DiskFault Place := do
  let p ← Path.ofText path
  match p.components.getLast? with
  | none => throw .isDirectory
  | some name => do
    let place ← d.walk (d.start p) p.components.dropLast
    d.requireDirectory place
    if name = "." ∨ name = ".." ∨ p.directory then throw .isDirectory
    requireName name
    return place ++ [name]

/-- Writes a file, over the old one if there is one. -/
def write (d : Disk) (path : String) (content : Bytes) : Except DiskFault Disk := do
  let place ← d.placeForFile path
  if d.entry? place = some .directory then throw .isDirectory
  return d.set place (.file content)

/-- Writes behind the content of a file, or into a new one. -/
def append (d : Disk) (path : String) (content : Bytes) : Except DiskFault Disk := do
  let place ← d.placeForFile path
  match d.entry? place with
  | some .directory => throw .isDirectory
  | some (.file old) => return d.set place (.file (old ++ content))
  | none => return d.set place (.file content)

def remove (d : Disk) (path : String) : Except DiskFault Disk := do
  let place ← d.placeForFile path
  match d.entry? place with
  | some (.file _) => return d.clear place
  | some .directory => throw .isDirectory
  | none => throw .notFound

/-- Makes the directories around a path, unless they are there already. -/
def createAround (d : Disk) (path : String) : Except DiskFault Disk := do
  let p ← Path.ofText path
  d.ensureDirectories p.parent (p.components.length + 1)

/-- Writes a file together with the directories around it. -/
def put (d : Disk) (path : String) (content : Bytes) : Except DiskFault Disk := do
  (← d.createAround path).write path content

end Disk

end PlayerSession
