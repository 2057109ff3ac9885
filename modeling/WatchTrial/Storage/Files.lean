import WatchTrial.Storage.Path
import WatchTrial.Text.Order
/-!
# Files

The files and directories a trial can see, seen from the working directory. A place is the list of
names on the way to it; a place outside the working directory starts with `..` or `/`. Looking up a
path walks from directory to directory, so a missing or plain file on the way is noticed.
-/
namespace WatchTrial

/-- The names on the way to a file or directory. -/
abbrev Place := List String

inductive Entry where
  | file (content : ByteArray)
  | directory
deriving Inhabited

inductive FileFault where
  | missing
  | notDirectory
  | isDirectory
  /-- A name or a path has too many bytes. -/
  | tooLong
  /-- A path holds a character that no name can have. -/
  | invalid
deriving Repr, DecidableEq

def FileFault.message : FileFault → String
  | missing => "no such file or directory"
  | notDirectory => "not a directory"
  | isDirectory => "is a directory"
  | tooLong => "file name too long"
  | invalid => "invalid argument"

structure Files where
  entries : List (Place × Entry)
deriving Inhabited

namespace Files

def empty : Files := ⟨[]⟩

/-- Whether a place is the working directory, one of its ancestors or the root. -/
def isAnchor (place : Place) : Bool :=
  place.all (· == "..") || place == ["/"]

def at? (files : Files) (place : Place) : Option Entry :=
  if isAnchor place then some .directory else files.entries.lookup place

/-- The place one directory up. -/
def parent (place : Place) : Place :=
  if place == ["/"] then place
  else if isAnchor place then ".." :: place
  else place.dropLast

/-- The most bytes that a name has. -/
def nameLimit : Nat := 255

/-- The most bytes that a path has. -/
def pathLimit : Nat := 4095

/-- Follows components from a directory; every one but the last has to lead to a directory. -/
def walk (files : Files) (start : Place) : List String → Except FileFault Place
  | [] => .ok start
  | name :: rest =>
    match files.at? start with
    | none => .error .missing
    | some (.file _) => .error .notDirectory
    | some .directory =>
      if name = "" ∨ name = "." then walk files start rest
      else if name = ".." then walk files (parent start) rest
      else if nameLimit < name.utf8ByteSize then .error .tooLong
      else walk files (start ++ [name]) rest

/-- The place a path leads to, which need not exist. -/
def resolve (files : Files) (path : String) : Except FileFault Place :=
  if '\x00' ∈ path.toList then .error .invalid
  else if path = "" then .error .missing
  else if pathLimit < path.utf8ByteSize then .error .tooLong
  else
    let names := (Path.components path.toList).map String.ofList
    walk files (if path.toList.head? == some '/' then ["/"] else []) names

def find (files : Files) (path : String) : Except FileFault (Place × Entry) :=
  match files.resolve path with
  | .error fault => .error fault
  | .ok place =>
    match files.at? place with
    | some entry => .ok (place, entry)
    | none => .error .missing

def existsAt (files : Files) (path : String) : Bool :=
  match files.find path with
  | .ok _ => true
  | .error _ => false

def isDirectory (files : Files) (path : String) : Bool :=
  match files.find path with
  | .ok (_, .directory) => true
  | _ => false

/-- The content of the file at a path. A fault names the step that failed. -/
def read (files : Files) (path : String) : Except String ByteArray :=
  match files.find path with
  | .error fault => .error ("open " ++ path ++ ": " ++ fault.message)
  | .ok (_, .directory) => .error ("read " ++ path ++ ": " ++ FileFault.isDirectory.message)
  | .ok (_, .file content) => .ok content

def put (files : Files) (place : Place) (entry : Entry) : Files :=
  ⟨(place, entry) :: files.entries.filter (·.1 != place)⟩

/-- Writes the file at a path, whose directory has to exist. -/
def write (files : Files) (path : String) (content : ByteArray) : Except String Files :=
  let refuse (fault : FileFault) : Except String Files := .error ("open " ++ path ++ ": " ++ fault.message)
  match files.resolve path with
  | .error fault => refuse fault
  | .ok place =>
    match files.at? place with
    | some .directory => refuse .isDirectory
    | some (.file _) => .ok (files.put place (.file content))
    | none =>
      if path.toList.getLast? == some '/' then refuse .isDirectory
      else
        match files.at? (parent place) with
        | some .directory => .ok (files.put place (.file content))
        | some (.file _) => refuse .notDirectory
        | none => refuse .missing

/-- Removes the file at a path, if there is one. -/
def remove (files : Files) (path : String) : Files :=
  match files.find path with
  | .ok (place, .file _) => ⟨files.entries.filter (·.1 != place)⟩
  | _ => files

/-- Creates the directory at a path, whose own directory exists, unless it is there. -/
def makeDirectory (files : Files) (path : String) : Except FileFault Files :=
  match files.resolve path with
  | .error fault => .error fault
  | .ok place =>
    match files.at? place with
    | some .directory => .ok files
    | some (.file _) => .error .notDirectory
    | none => .ok (files.put place .directory)

/-- Creates directories one after the other, up to one that cannot be created, which the fault names. -/
def makeEach (files : Files) : List String → Files × Option String
  | [] => (files, none)
  | path :: rest =>
    match files.makeDirectory path with
    | .ok made => makeEach made rest
    | .error fault => (files, some ("mkdir " ++ path ++ ": " ++ fault.message))

/-- The directories on the way to the directory at a clean path and itself, from the outside in. -/
def directoriesTo (path : String) : List String :=
  let rooted := path.toList.head? == some '/'
  let names := ((Path.components path.toList).map String.ofList).filter (· != "")
  (List.range names.length).map fun n =>
    (if rooted then "/" else "") ++ "/".intercalate (names.take (n + 1))

/-- Creates the directory at a clean path and all directories on the way to it. -/
def makeDirectories (files : Files) (path : String) : Except String Files :=
  match files.makeEach (directoriesTo path) with
  | (made, none) => .ok made
  | (_, some why) => .error why

/-- The names in the directory at a place, ascending. -/
def namesIn (files : Files) (place : Place) : List String :=
  Text.ascending <| files.entries.filterMap fun (p, _) =>
    if p.length = place.length + 1 ∧ place.isPrefixOf p then p.getLast? else none

/-- The files below the working directory, with their sizes, ascending by path. -/
def sizes (files : Files) : List (String × Nat) :=
  let found := files.entries.filterMap fun (place, entry) =>
    match entry, place.head? with
    | .file content, some first =>
      if first = ".." ∨ first = "/" then none else some ("/".intercalate place, content.size)
    | _, _ => none
  (Text.ascending (found.map (·.1))).filterMap fun path =>
    (found.lookup path).map fun size => (path, size)

end Files
end WatchTrial
