import ResultLint.Ignore.File
import ResultLint.Path
import ResultLint.Text.Utf8

/-!
Files and directories as a value, looked up by path from a current directory. A path is followed
piece by piece: every piece but the last must be a directory, `.` and empty pieces stay, and `..`
goes up.
-/
namespace ResultLint

inductive FileTree where
  | file (bytes : List UInt8)
  | directory (entries : List (List Char × FileTree))
  deriving Repr, Inhabited

/-- Why a file cannot be read or written. -/
inductive FileFault where
  | notFound
  | notDirectory
  | isDirectory
  | notText
  deriving DecidableEq, Repr

def FileFault.message : FileFault → String
  | .notFound => "No such file or directory (os error 2)"
  | .notDirectory => "Not a directory (os error 20)"
  | .isDirectory => "Is a directory (os error 21)"
  | .notText => "stream did not contain valid UTF-8"

namespace FileTree

/-- Follows pieces from a node; `above` are the directories over it, the nearest first. -/
def follow : List (List Char) → List FileTree → FileTree → Except FileFault FileTree
  | [], _, node => .ok node
  | piece :: more, above, node =>
    match node with
    | .file _ => .error .notDirectory
    | .directory entries =>
      if piece = [] ∨ piece = ['.'] then follow more above node
      else if piece = ['.', '.'] then
        match above with
        | [] => follow more [] node
        | up :: higher => follow more higher up
      else
        match entries.lookup piece with
        | none => .error .notFound
        | some child => follow more (node :: above) child

/-- Sets what the entry of a name is, at the place of the old one if there is one. -/
def setEntry (entries : List (List Char × FileTree)) (name : List Char) (node : FileTree) :
    List (List Char × FileTree) :=
  if (entries.lookup name).isSome then
    entries.map fun (n, t) => if n = name then (n, node) else (n, t)
  else entries ++ [(name, node)]

/-- The bytes at a path of names become these; a file that is not there yet is created. -/
def write (bytes : List UInt8) : List (List Char) → FileTree → Except FileFault FileTree
  | [], .file _ => .ok (.file bytes)
  | [], .directory _ => .error .isDirectory
  | _ :: _, .file _ => .error .notDirectory
  | name :: more, .directory entries =>
    match entries.lookup name with
    | some child => do
      let child ← write bytes more child
      return .directory (setEntry entries name child)
    | none =>
      if more = [] then .ok (.directory (setEntry entries name (.file bytes)))
      else .error .notFound

/-- Adds a node at a path of names, with the directories on the way. What is there already as a
directory stays if a directory is added. -/
def add (node : FileTree) : List (List Char) → FileTree → FileTree
  | [], old =>
    match node, old with
    | .directory [], .directory entries => .directory entries
    | _, _ => node
  | name :: more, .directory entries =>
    .directory (setEntry entries name (add node more ((entries.lookup name).getD (.directory []))))
  | name :: more, .file _ => .directory [(name, add node more (.directory []))]

end FileTree

/-- The rules of the user's own ignore file. They hold everywhere. -/
class UserRules where
  rules : List Ignore.Rule
  deriving Repr

/-- A user without an ignore file, for where no other is at hand. -/
instance (priority := low) UserRules.none : UserRules := ⟨[]⟩

/-- A tree from its topmost directory on, an absolute path to the current directory, and the user's
own rules. -/
structure FileSystem where
  top : FileTree
  current : Path
  [user : UserRules]
  deriving Repr

namespace FileSystem

/-- The names on the way from the top to an absolute path, `.` and `..` resolved. -/
def names (p : Path) : List (List Char) :=
  (p.components.foldl (fun above component => match component with
    | .name text => text :: above
    | .parent => above.tail
    | .root | .current => above) []).reverse

/-- A file system with a current directory, whose path is written without `.` and `..`, for a user
without an ignore file. -/
def startingIn (top : FileTree) (current : Path) : FileSystem :=
  ⟨top, ⟨'/' :: ['/'].intercalate (names current)⟩⟩

/-- The node at a path. -/
def locate (fs : FileSystem) (p : Path) : Except FileFault FileTree :=
  if p.chars = [] then .error .notFound
  else FileTree.follow (Text.splitOn '/' (fs.current.join p).chars) [] fs.top

def isFile (fs : FileSystem) (p : Path) : Bool :=
  match fs.locate p with
  | .ok (.file _) => true
  | _ => false

def isPresent (fs : FileSystem) (p : Path) : Bool :=
  match fs.locate p with
  | .ok _ => true
  | .error _ => false

def readBytes (fs : FileSystem) (p : Path) : Except FileFault (List UInt8) := do
  match ← fs.locate p with
  | .file bytes => return bytes
  | .directory _ => .error .isDirectory

def readText (fs : FileSystem) (p : Path) : Except FileFault (List Char) := do
  match Text.decode? (← fs.readBytes p) with
  | some text => return text
  | none => .error .notText

def writeText (fs : FileSystem) (p : Path) (text : List Char) : Except FileFault FileSystem := do
  return { fs with top := ← fs.top.write (Text.encode text) (names (fs.current.join p)) }

end FileSystem

end ResultLint
