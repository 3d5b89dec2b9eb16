import TopicWire.Bytes
import TopicWire.Text.Cut

/-!
# Files

What a program sees of the files around it: files and directories under normal paths, which are the
names from the root on, and the directory that relative paths start from. A path as it is written
may hold empty parts and dots, which `Files.locate` follows as the system does: a part other than
the last has to be a directory, also before `.` and `..`.
-/

namespace TopicWire

inductive FileError where
  | notFound
  | notDirectory
  | isDirectory
  | nameTooLong
  | zeroInName
  | notUtf8
deriving DecidableEq, Repr

namespace FileError

def message : FileError → String
  | .notFound => "No such file or directory (os error 2)"
  | .notDirectory => "Not a directory (os error 20)"
  | .isDirectory => "Is a directory (os error 21)"
  | .nameTooLong => "File name too long (os error 36)"
  | .zeroInName => "file name contained an unexpected NUL byte"
  | .notUtf8 => "stream did not contain valid UTF-8"

end FileError

/-- The parts of a path between its slashes. -/
def pathParts (path : String) : List String :=
  (Text.pieces (· == '/') path.toList).map String.ofList

def isAbsolute (path : String) : Bool :=
  path.toList.head? == some '/'

/-- The path of something inside a directory. An absolute path stays as it is. -/
def joinPath (directory path : String) : String :=
  if isAbsolute path || directory.isEmpty then path
  else if directory.toList.getLast? == some '/' then directory ++ path
  else s!"{directory}/{path}"

inductive FileEntry where
  | directory
  | file (content : Bytes)
deriving DecidableEq, Repr

structure Files where
  /-- What is found under normal paths. -/
  entries : List (List String × FileEntry) := []
  /-- The directory that relative paths start from. -/
  here : List String := []

namespace Files

def addEntry (files : Files) (path : List String) (entry : FileEntry) : Files :=
  if (files.entries.lookup path).isSome then files
  else { files with entries := files.entries ++ [(path, entry)] }

def add (files : Files) (path : List String) (entry : FileEntry) : Files :=
  let parents := (List.range (path.length - 1)).map fun n => path.take (n + 1)
  (parents.foldl (fun files parent => files.addEntry parent .directory) files).addEntry path entry

/-- What is found under a normal path. The root is always a directory. -/
def entry? (files : Files) (path : List String) : Option FileEntry :=
  if path.isEmpty then some .directory else files.entries.lookup path

/-- Follows the parts of a path from a place on. -/
def follow (files : Files) (place : List String) : List String → Except FileError (List String)
  | [] => .ok place
  | part :: parts =>
    if files.entry? place ≠ some .directory then .error .notDirectory
    else if part = "" ∨ part = "." then files.follow place parts
    else if part = ".." then files.follow place.dropLast parts
    else if 255 < part.utf8ByteSize then .error .nameTooLong
    else if (files.entry? (place ++ [part])).isNone then .error .notFound
    else files.follow (place ++ [part]) parts

/-- The normal path of what is found under a path. -/
def locate (files : Files) (path : String) : Except FileError (List String) :=
  if path.isEmpty then .error .notFound
  else if path.toList.contains '\x00' then .error .zeroInName
  else if 4095 < path.utf8ByteSize then .error .nameTooLong
  else files.follow (if isAbsolute path then [] else files.here) (pathParts path)

def has (files : Files) (path : String) : Bool :=
  (files.locate path).toBool

def isDirectory (files : Files) (path : String) : Bool :=
  match files.locate path with
  | .ok place => files.entry? place == some .directory
  | .error _ => false

def read (files : Files) (path : String) : Except FileError Bytes :=
  match files.locate path with
  | .error e => .error e
  | .ok place =>
    match files.entry? place with
    | some (.file content) => .ok content
    | some .directory => .error .isDirectory
    | none => .error .notFound

def readText (files : Files) (path : String) : Except FileError String :=
  match files.read path with
  | .error e => .error e
  | .ok content =>
    match Bytes.text? content with
    | some text => .ok text
    | none => .error .notUtf8

/-- The names in a directory in ascending order. -/
def names (files : Files) (path : String) : List String :=
  match files.locate path with
  | .error _ => []
  | .ok place =>
    let inside := files.entries.filterMap fun (path, _) =>
      if path.dropLast = place then path.getLast? else none
    inside.mergeSort fun a b => !decide (b < a)

def size (files : Files) : Nat :=
  (files.entries.map fun (_, entry) => match entry with
    | .file content => content.length
    | .directory => 0).foldl (· + ·) 0

end Files

end TopicWire
