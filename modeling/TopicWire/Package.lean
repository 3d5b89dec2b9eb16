import TopicWire.Files
import TopicWire.Schema.Error
import TopicWire.Session.Settings

/-!
# Finding packages

A package is a directory. It is looked for under roots, the first one that has it wins, or listed
with its directory, or whoever loads types has an answer of their own.
-/

namespace TopicWire

inductive PackageIndex where
  /-- Under these directories or one level below them. -/
  | roots (directories : List String)
  | listed (directories : List (String × String))
  | custom (find : String → Except SchemaError String)

/-- The paths in a list that is divided by colons. Empty ones do not count. -/
def splitPathList (list : String) : List String :=
  ((Text.pieces (· == ':') list.toList).filter (!·.isEmpty)).map String.ofList

namespace PackageIndex

/-- Looks for a package in a root itself, and then in the directories there in ascending order. -/
def searchRoot (files : Files) (package root : String) : Option String :=
  let direct := joinPath root package
  if files.isDirectory direct then some direct
  else
    let children := ((files.names root).map (joinPath root)).filter files.isDirectory
    (children.map (joinPath · package)).find? files.isDirectory

/-- The directory of a package, which must be there. -/
def resolve (index : PackageIndex) (files : Files) (package : String) : Except SchemaError String :=
  let found (directory : Option String) := match directory with
    | some directory => .ok directory
    | none => .error (.packageNotFound package)
  match index with
  | .roots directories => found (directories.findSome? (searchRoot files package))
  | .listed directories => found (directories.lookup package)
  | .custom find => find package

def environmentRoots (env : Environment) : List String :=
  splitPathList ((env.lookup "ROS_PACKAGE_PATH").getD "")

end PackageIndex

end TopicWire
