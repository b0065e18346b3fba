import Cosimulation.Channel
import Cosimulation.Text.Utf8
/-!
# Socket files

Controller and bridge meet at a socket file.  A directory tree knows which paths hold files,
folders and sockets, and who listens at a socket.  Paths are followed name by name from the working
directory, or from the root if they begin with a slash: every name but the last must be that of a
folder, `.` stays where it is, `..` goes one up, and a slash at the end asks for a folder.

Three things are done with a path: `dial` connects to the socket there, `unlink` removes what is
there, and `bind` puts a new socket there.  Each fails with the fault that the system reports.
-/

namespace Cosimulation

set_option autoImplicit false

/-- What is found at a path. -/
inductive Entry where
  | file
  | folder
  /-- A socket, with the channel that a connection to it will get if anybody listens. -/
  | socket (listener : Option Channel)
  deriving DecidableEq, Repr

/-- A place in the tree: the names that lead to it from the root. -/
abbrev Place := List String

/-- A directory tree. -/
structure Directory where
  entries : List (Place × Entry)
  deriving DecidableEq, Repr

namespace Directory

/-- Where relative paths begin. -/
def workingPlace : Place := ["tmp", "work"]

/-- The tree that holds nothing but the working directory. -/
def empty : Directory := ⟨[(["tmp"], .folder), (["tmp", "work"], .folder)]⟩

/-- What is at a place.  The root is a folder. -/
def entry? (directory : Directory) (place : Place) : Option Entry :=
  if place = [] then some .folder else directory.entries.lookup place

/-- Puts an entry at a place. -/
def put (directory : Directory) (place : Place) (entry : Entry) : Directory :=
  ⟨(place, entry) :: directory.entries.filter fun (other, _) => other ≠ place⟩

/-- Removes what is at a place. -/
def remove (directory : Directory) (place : Place) : Directory :=
  ⟨directory.entries.filter fun (other, _) => other ≠ place⟩

/-! ## Following paths -/

/-- The largest number of bytes in a name. -/
def maximalName : Nat := 255

/-- The largest number of bytes in a path. -/
def maximalPath : Nat := 4095

/-- The largest number of bytes in the path of a socket. -/
def maximalSocketPath : Nat := 107

/-- The place that a name stands for when it is read at a place. -/
def descend (place : Place) (name : String) : Place :=
  if name = "." then place
  else if name = ".." then place.dropLast
  else place ++ [name]

/-- Goes from a place to the place that a name stands for there. -/
def enter (directory : Directory) (place : Place) (name : String) : Except Fault Place :=
  match directory.entry? place with
  | some .folder =>
    if maximalName < name.utf8ByteSize then .error (.ofCode 36)
    else
      match directory.entry? (descend place name) with
      | some _ => .ok (descend place name)
      | none => .error (.ofCode 2)
  | some _ => .error (.ofCode 20)
  | none => .error (.ofCode 2)

/-- Follows names one after the other. -/
def follow (directory : Directory) : Place → List String → Except Fault Place
  | place, [] => .ok place
  | place, name :: rest =>
    match directory.enter place name with
    | .error fault => .error fault
    | .ok next => directory.follow next rest

/-- The names between the slashes of a path, doubled slashes counting once. -/
def names (path : String) : List String :=
  (path.splitOn "/").filter (· ≠ "")

/-- Whether a path begins with a slash. -/
def isAbsolute (path : String) : Bool := path.toList.head? = some '/'

/-- Whether a path ends with a slash. -/
def asksForFolder (path : String) : Bool := path.toList.getLast? = some '/'

/-- Where a path begins. -/
def origin (path : String) : Place :=
  if isAbsolute path then [] else workingPlace

/-- The place that a path leads to. -/
def locate (directory : Directory) (path : String) : Except Fault Place :=
  if path.isEmpty then .error (.ofCode 2)
  else
    directory.follow (origin path)
      (names path ++ if asksForFolder path then ["."] else [])

/-- Whether there is anything at a path. -/
def contains (directory : Directory) (path : String) : Bool :=
  (directory.locate path).toBool

/-- Makes a folder at a place where there is nothing. -/
def makeFolder (directory : Directory) (place : Place) : Directory :=
  if (directory.entry? place).isSome then directory else directory.put place .folder

/-- Puts an entry at a path, whatever is there, and makes the folders that are missing on the way
to it. -/
def place (directory : Directory) (path : String) (entry : Entry) : Directory :=
  let (directory, target) :=
    (names path).foldl
      (fun (directory, here) name => (directory.makeFolder here, descend here name))
      (directory, origin path)
  directory.put target entry

/-! ## Connecting -/

/-- The fault of a path that no socket can have. -/
def socketPathFault? (path : String) : Option Fault :=
  if '\x00' ∈ path.toList then
    some ⟨.other, "paths must not contain interior null bytes"⟩
  else if maximalSocketPath < path.utf8ByteSize then
    some ⟨.other, "path must be shorter than SUN_LEN"⟩
  else none

/-- Connects to the socket at a path. -/
def dial (directory : Directory) (path : String) : Except Fault Channel :=
  match socketPathFault? path with
  | some fault => .error fault
  | none =>
    match directory.locate path with
    | .error fault => .error fault
    | .ok place =>
      match directory.entry? place with
      | some (.socket (some channel)) => .ok channel
      | _ => .error (.ofCode 111)

/-! ## Removing and binding -/

/-- The folder that a path leads into, and the last name of the path.  A path that ends in no name
of its own leads to a folder. -/
def split (directory : Directory) (path : String) : Except Fault (Place × String) :=
  match (names path).getLast? with
  | none => .error (.ofCode (if path.isEmpty then 2 else 21))
  | some last =>
    match directory.follow (origin path) ((names path).dropLast ++ ["."]) with
    | .error fault => .error fault
    | .ok parent =>
      if last = "." ∨ last = ".." then .error (.ofCode 21) else .ok (parent, last)

/-- Removes the file or socket at a path. -/
def unlink (directory : Directory) (path : String) : Except Fault Directory :=
  if '\x00' ∈ path.toList then
    .error ⟨.other, "file name contained an unexpected NUL byte"⟩
  else if maximalPath < path.utf8ByteSize then .error (.ofCode 36)
  else
    match directory.split path with
    | .error fault => .error fault
    | .ok (parent, last) =>
      match directory.enter parent last with
      | .error fault => .error fault
      | .ok place =>
        if directory.entry? place = some .folder then .error (.ofCode 21)
        else if asksForFolder path then .error (.ofCode 20)
        else .ok (directory.remove place)

/-- Makes room at a path: removes the file or socket there, if there is one. -/
def clear (directory : Directory) (path : String) : Except Fault Directory :=
  match directory.unlink path with
  | .ok directory => .ok directory
  | .error fault => if fault.kind = .notFound then .ok directory else .error fault

/-- Puts a socket at a path where there is nothing yet.  The empty path binds a socket that has no
file. -/
def bind (directory : Directory) (path : String) (listener : Channel) : Except Fault Directory :=
  match socketPathFault? path with
  | some fault => .error fault
  | none =>
    if path.isEmpty then .ok directory
    else
      match directory.split path with
      | .error fault => .error fault
      | .ok (parent, last) =>
        if (directory.entry? (parent ++ [last])).isSome then .error (.ofCode 98)
        else if asksForFolder path then .error (.ofCode 2)
        else .ok (directory.put (parent ++ [last]) (.socket (some listener)))

end Directory

end Cosimulation
