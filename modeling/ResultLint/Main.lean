import ResultLint.CommandLine.Run
import ResultLint.Ignore.User

/-!
The program: the files that a run looks at are read, and what it leaves behind is printed and
written. Nothing is salvaged from sources with syntax errors here.
-/
namespace ResultLint.Main

open CommandLine

/-- Whether a file's bytes matter to a check; of the others it is enough that they are there. -/
def isRead (name : String) : Bool :=
  (Dialect.ofPath? (.ofString name)).isSome || [".ignore", ".gitignore", "exclude"].contains name

/-- Whether a file is at a place, be it through a link. -/
def isFile (place : IO.FS.DirEntry) : IO Bool := do
  try return (← place.path.metadata).type == .file
  catch _ => return false

/-- What is at a place: a file, or a directory with all below it, as deep as `depth` allows. A link
below the place stands for the file that it leads to; one to a directory is left out. -/
def nodeBelow (place : IO.FS.DirEntry) : Nat → IO (Option FileTree)
  | 0 => return none
  | depth + 1 => do
    if (← place.path.symlinkMetadata).type == .dir then
      let entries ← (← place.path.readDir).toList.filterMapM fun entry => do
        return (← nodeBelow entry depth).map fun node => (entry.fileName.toList, node)
      return some (.directory entries)
    else if ← isFile place then
      let bytes ← if isRead place.fileName then IO.FS.readBinFile place.path else pure .empty
      return some (.file bytes.toList)
    else return none

/-- A directory with all below it, or none if there is no such directory. -/
def directoryAt? (place : IO.FS.DirEntry) : IO (Option FileTree) := do
  if ← place.path.isDir then
    let entries ← (← place.path.readDir).toList.filterMapM fun entry => do
      return (← nodeBelow entry 4096).map fun node => (entry.fileName.toList, node)
    return some (.directory entries)
  else return none

/-- A single file with its bytes, or a directory without what is in it. -/
def fileAt? (place : IO.FS.DirEntry) : IO (Option FileTree) := do
  if ← place.path.isDir then return some (.directory [])
  else if ← place.path.pathExists then
    return some (.file (← IO.FS.readBinFile place.path).toList)
  else return none

/-- The bytes of a file; none if it cannot be read. -/
def bytesAt? (file : String) : IO (Option (List UInt8)) := do
  try return some (← IO.FS.readBinFile file).toList
  catch _ => return none

/-- The rules of the user's own ignore file: the one that a git configuration names, the one in the
home directory first, else the one that lies beside the shared configuration. -/
def userRules (home : Option String) : IO UserRules := do
  let shared := (← IO.getEnv "XDG_CONFIG_HOME").filter (· ≠ "") <|> home.map (· ++ "/.config")
  let configs := (home.map (· ++ "/.gitconfig")).toList ++ (shared.map (· ++ "/git/config")).toList
  let named ← configs.findSomeM? fun config => do
    return ((← bytesAt? config).bind Text.decode?).bind
      (Ignore.excludesFile? (home.getD "~").toList)
  match named.map String.ofList <|> shared.map (· ++ "/git/ignore") with
  | some file => return ⟨((← bytesAt? file).map Ignore.rulesOf).getD []⟩
  | none => return ⟨[]⟩

/-- The files that a request needs, as a file system. -/
def filesFor (e : Environment) (request : Request) : IO FileSystem := do
  let root ← IO.currentDir
  let current := Path.ofString root.toString
  let add (tree : FileTree) (path : Path)
      (read : IO.FS.DirEntry → IO (Option FileTree)) : IO FileTree := do
    match ← read ⟨root, path.toString⟩ with
    | some node => return FileTree.add node (FileSystem.names (current.join path)) tree
    | none => return tree
  let mut tree := FileTree.add (.directory []) (FileSystem.names current) (.directory [])
  if let .check asked := request.command then
    tree ← add tree asked.path fileAt?
    tree ← add tree asked.path directoryAt?
  for path in singleFiles e current request do
    tree ← add tree path fileAt?
  return { FileSystem.startingIn tree current with user := ← userRules e.home }

/-- Writes the files that a run has changed. -/
def writeChanges (before after : FileSystem) (paths : List Path) : IO Unit := do
  for path in paths do
    match before.readBytes path, after.readBytes path with
    | _, .error _ => pure ()
    | .error _, .ok bytes => IO.FS.writeBinFile path.toString ⟨bytes.toArray⟩
    | .ok old, .ok bytes =>
      if old != bytes then IO.FS.writeBinFile path.toString ⟨bytes.toArray⟩

/-- Runs the program and returns its exit code. -/
def start (arguments : List String) : IO UInt32 := do
  let e : Environment :=
    ⟨← IO.getEnv "RAILWAY_LINT_CONFIG", ← IO.getEnv "RAILWAY_LINT_CONFIG_DIR",
      ← IO.getEnv "HOME"⟩
  let request := (Request.ofArguments e.config arguments).toOption
  let files ← match request with
    | some request => filesFor e request
    | none => pure (.startingIn (.directory []) (.ofString "/"))
  let outcome := run e files arguments
  if let some request := request then
    writeChanges files outcome.files (singleFiles e files.current request)
  IO.print outcome.output
  if let some failure := outcome.failure then IO.eprint failure.report
  if outcome.exitCode = 2 then IO.eprint help
  return outcome.exitCode.toUInt32

end ResultLint.Main

def main (arguments : List String) : IO UInt32 :=
  ResultLint.Main.start arguments
