import ResultLint.FileTree
import ResultLint.Ignore.File

/-!
The files below a directory, less those that ignore files take out. What the ignore files of a
directory say goes for everything below it, the nearest directory first; `.ignore` files go
before `.gitignore` files, those before a repository's list of excludes, and the user's own ignore
file comes last. A directory that is ignored is not entered.
-/
namespace ResultLint

open Ignore

/-- The ignore files of one directory, each kind apart, and the names on the way from it. -/
structure Walk.Level where
  ignore : List Ignore.Rule
  gitIgnore : List Ignore.Rule
  gitExclude : List Ignore.Rule
  /-- The user's own rules; one level has them, the others none. -/
  user : List Ignore.Rule
  way : List (List Char)

namespace Walk

def ignoreFile : String := ".ignore"

def gitIgnoreFile : String := ".gitignore"

/-- The excludes of a repository, seen from its directory. -/
def gitExcludeFile : String := ".git/info/exclude"

/-- The rules of a file below some entries; none if there is no such file. -/
def rulesAt (file : String) (entries : List (List Char × FileTree)) : List Ignore.Rule :=
  match FileTree.follow (Text.splitOn '/' file.toList) [] (.directory entries) with
  | .ok (.file bytes) => rulesOf bytes
  | _ => []

def Level.ofEntries (entries : List (List Char × FileTree)) : Level :=
  ⟨rulesAt ignoreFile entries, rulesAt gitIgnoreFile entries, rulesAt gitExcludeFile entries, [],
    []⟩

/-- The level of the user's own rules. They see a directory below the current one from there, any
other from the topmost one. -/
def Level.ofUser (rules : List Ignore.Rule) (current way : List (List Char)) : Level :=
  ⟨[], [], [], rules, (current.isPrefixOf? way).getD way⟩

def Level.enter (name : List Char) (level : Level) : Level :=
  { level with way := level.way ++ [name] }

/-- The path of an entry as a level sees it. -/
def Level.pathTo (level : Level) (name : List Char) : List Char :=
  ['/'].intercalate (level.way ++ [name])

/-- Whether ignore files take an entry out; the levels are those above it, nearest first. -/
def isIgnored (levels : List Level) (name : List Char) (isDirectory : Bool) : Bool :=
  let ask (kind : Level → List Ignore.Rule) : Option Verdict :=
    levels.findSome? fun level => verdict? (kind level) (level.pathTo name) isDirectory
  (ask Level.ignore <|> ask Level.gitIgnore <|> ask Level.gitExclude <|> ask Level.user) ==
    some .ignored

mutual

/-- The ways to the files of a node. Without `respect` nothing is taken out. -/
def filesOf (respect : Bool) (levels : List Level) : FileTree → List (List (List Char))
  | .file _ => [[]]
  | .directory entries =>
    filesAmong respect (if respect then Level.ofEntries entries :: levels else []) entries

/-- The ways to the files of a directory's entries. -/
def filesAmong (respect : Bool) (levels : List Level) :
    List (List Char × FileTree) → List (List (List Char))
  | [] => []
  | (name, node) :: rest =>
    let isDirectory := match node with
      | .file _ => false
      | .directory _ => true
    let found := if isIgnored levels name isDirectory then []
      else (filesOf respect (levels.map (Level.enter name)) node).map (name :: ·)
    found ++ filesAmong respect levels rest

end

/-- The levels of the directories on a way from a node, its end left out. -/
def levelsOnWay : List (List Char) → List Level → FileTree → List Level
  | [], levels, _ => levels
  | name :: more, levels, .directory entries =>
    let levels := (Level.ofEntries entries :: levels).map (Level.enter name)
    match entries.lookup name with
    | some child => levelsOnWay more levels child
    | none => levels
  | _ :: _, levels, .file _ => levels

end Walk

/-- The files at a path and below it, in no particular order. -/
def FileSystem.filesBelow (fs : FileSystem) (respect : Bool) (root : Path) :
    Except FileFault (List Path) := do
  let node ← fs.locate root
  let way := names (fs.current.join root)
  let levels :=
    if respect then
      Walk.levelsOnWay way [] fs.top ++ [.ofUser fs.user.rules (names fs.current) way]
    else []
  return (Walk.filesOf respect levels node).map fun way =>
    way.foldl (fun path name => path.join ⟨name⟩) root

end ResultLint
