import TopicWire.Program

/-!
# The disk

Reads what a command line needs of the environment and of the files: what lies along the paths that
are named, and the schemas of the packages under the roots.
-/

namespace TopicWire

def environmentNames : List String :=
  ["HOME", "XDG_CONFIG_HOME", "TCPROS_CONFIG", "ROS_PACKAGE_PATH", "ROS_HOSTNAME", "ROS_IP"]

def absolutePath (place : List String) : String :=
  "/" ++ "/".intercalate place

def entryOnDisk (place : List String) : IO (Option FileEntry) := do
  let path := (← IO.currentDir) / absolutePath place
  if ← path.isDir then return some .directory
  else if ← path.pathExists then
    try return some (.file (← IO.FS.readBinFile path).toList)
    catch _ => return none
  else return none

/-- Adds what lies along the parts of a path, and gives the place where it ends. -/
def lookAlong (files : Files) (place : List String) :
    List String → IO (Files × List String)
  | [] => return (files, place)
  | part :: parts => do
    if part.isEmpty || part == "." then lookAlong files place parts
    else if part == ".." then lookAlong files place.dropLast parts
    else
      let place := place ++ [part]
      match ← entryOnDisk place with
      | some entry => lookAlong (files.add place entry) place parts
      | none => return (files, place)

/-- Adds what lies along a path, and gives the place where it ends. -/
def look (files : Files) (path : String) : IO (Files × List String) :=
  lookAlong files (if isAbsolute path then [] else files.here) (pathParts path)

/-- Adds the directories below a place down to a depth, and the schemas in them. -/
def lookBelow : (depth : Nat) → List String → Files → IO Files
  | 0, _, files => return files
  | depth + 1, place, files => do
    let path := (← IO.currentDir) / absolutePath place
    let children ← try path.readDir catch _ => pure #[]
    children.toList.foldlM (fun files child => do
      let inside := place ++ [child.fileName]
      if ← child.path.isDir then lookBelow depth inside (files.add inside .directory)
      else if child.fileName.endsWith ".msg" then
        return ((← entryOnDisk inside).map (files.add inside)).getD files
      else return files) files

/-- Adds the packages under a root, or one level below it, with their schemas. -/
def lookForPackages (files : Files) (root : String) : IO Files := do
  let (files, place) ← look files root
  lookBelow 4 place files

def lookAround (args : List String) : IO Surroundings := do
  let env ← environmentNames.filterMapM fun name => return (← IO.getEnv name).map fun v => (name, v)
  let here := (pathParts (← IO.currentDir).toString).filter (!·.isEmpty)
  let files := ({ here := here } : Files).add here .directory
  match Invocation.parse env args with
  | .error _ => return ⟨env, files, {}⟩
  | .ok i =>
    let (files, _) ← look files (i.settings.getD (Settings.defaultPath env))
    let files ← match i.command with
      | .decode _ file => pure (← look files file).1
      | _ => pure files
    match Settings.find env files i.settings with
    | .error _ => return ⟨env, files, {}⟩
    | .ok settings =>
      match settings.packages env with
      | .roots roots => return ⟨env, ← roots.foldlM lookForPackages files, {}⟩
      | _ => return ⟨env, files, {}⟩

end TopicWire
