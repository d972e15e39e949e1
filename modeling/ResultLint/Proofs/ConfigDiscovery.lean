import ResultLint.CommandLine.Run
import ResultLint.Proofs.ProjectTest

/-!
The configuration of a project as the command line discovers it and as the project's test does. Both
look for two names in turn, the command for a regular file and the test for anything that is there;
so they part where the first thing that bears one of the names is a directory.
-/
namespace ResultLint

namespace FileSystem

variable (fs : FileSystem) (path : Path)

theorem isFile_iff : fs.isFile path = true ↔ ∃ bytes, fs.locate path = .ok (.file bytes) := by
  unfold isFile
  cases fs.locate path with
  | error fault => simp
  | ok node => cases node <;> simp

theorem isPresent_of_isFile (file : fs.isFile path = true) : fs.isPresent path = true := by
  obtain ⟨bytes, located⟩ := (fs.isFile_iff path).mp file
  rw [isPresent, located]

/-- What is there and no file is a directory. -/
theorem exists_directory (there : fs.isPresent path = true) (other : ¬ fs.isFile path = true) :
    ∃ entries, fs.locate path = .ok (.directory entries) := by
  rw [isFile_iff] at other
  unfold isPresent at there
  cases located : fs.locate path with
  | error fault => simp [located] at there
  | ok node =>
    cases node with
    | file bytes => exact absurd ⟨bytes, located⟩ other
    | directory entries => exact ⟨entries, rfl⟩

theorem readText_directory (entries : List (List Char × FileTree))
    (located : fs.locate path = .ok (.directory entries)) :
    fs.readText path = .error .isDirectory := by
  rw [readText, readBytes, located]
  rfl

/-- A file that cannot be read as text is none. -/
theorem readText_file (file : fs.isFile path = true) (fault : FileFault)
    (unread : fs.readText path = .error fault) : fault = .notText := by
  obtain ⟨bytes, located⟩ := (fs.isFile_iff path).mp file
  have bytesRead : fs.readBytes path = .ok bytes := by
    rw [readBytes, located]
    rfl
  rw [readText, bytesRead, bind_error_iff] at unread
  rcases unread with failed | ⟨_, -, undecoded⟩
  · cases failed
  · split at undecoded
    · cases undecoded
    · cases undecoded
      rfl

end FileSystem

namespace ProjectCheck

open CommandLine

/-- The file that is to be read for a project: the first of the two names that is a regular file's,
whatever else bears them. -/
inductive Discovered (fs : FileSystem) (project : Path) : Option Path → Prop
  | visible (file : fs.isFile (project.join (.ofString "railway-lint.toml")) = true) :
      Discovered fs project (some (project.join (.ofString "railway-lint.toml")))
  | hidden (other : fs.isFile (project.join (.ofString "railway-lint.toml")) = false)
      (file : fs.isFile (project.join (.ofString ".railway-lint.toml")) = true) :
      Discovered fs project (some (project.join (.ofString ".railway-lint.toml")))
  | absent (missing : ∀ name ∈ configNames, fs.isFile (project.join (.ofString name)) = false) :
      Discovered fs project none

/-- What the command and the test make of a file that is read, or of none: the same configuration,
or each a failure over the content of that file. -/
inductive SameConfig (fs : FileSystem) : Option Path → Except Failure Config →
    Except Error Config → Prop
  | default : SameConfig fs none (.ok .default) (.ok .default)
  | read (path : Path) (text : List Char) (config : Config)
      (opened : fs.readText path = .ok text) (parsed : Config.parse text = .ok config) :
      SameConfig fs (some path) (.ok config) (.ok config)
  | noText (path : Path) (unread : fs.readText path = .error .notText) :
      SameConfig fs (some path)
        (.error (about ("Failed to load config: " ++ path.toString)
          (ConfigError.unreadable path .notText).chain))
        (.error (.unreadableConfig path .notText))
  | malformed (path : Path) (text : List Char) (fault : Config.Fault)
      (opened : fs.readText path = .ok text) (unparsed : Config.parse text = .error fault) :
      SameConfig fs (some path)
        (.error (about ("Failed to load config: " ++ path.toString)
          (ConfigError.malformed fault).chain))
        (.error (.config (.malformed fault)))

/-- The first thing that bears one of the two names is a directory. -/
structure DirectoryFirst (fs : FileSystem) (project path : Path) : Prop where
  first : ConfigFile fs project none path
  directory : ∃ entries, fs.locate path = .ok (.directory entries)

section Discovery

variable (e : Environment) (fs : FileSystem) (project : Path)

/-- Without a configuration for all projects the command takes the file that is to be read. -/
theorem configPath_eq_iff
    (unshared : ∀ directory ∈ e.sharedDirectory?,
      fs.isFile (directory.join (.ofString "config.toml")) = false) (place : Option Path) :
    CommandLine.configPath? e fs project none = place ↔ Discovered fs project place := by
  have shared : (e.sharedDirectory?.map fun directory =>
      directory.join (.ofString "config.toml")).toList.find? fs.isFile = none := by
    rw [List.find?_eq_none]
    intro path member
    rw [Option.mem_toList, Option.map_eq_some_iff] at member
    obtain ⟨directory, given, rfl⟩ := member
    simp [unshared directory given]
  have own : CommandLine.configPath? e fs project none =
      (configNames.map fun name => project.join (.ofString name)).find? fs.isFile := by
    change (configPaths e project).find? fs.isFile = _
    rw [configPaths, List.find?_append, shared, Option.or_none]
  rw [own]
  constructor
  · rintro rfl
    simp only [configNames, List.map_cons, List.map_nil, List.find?_cons, List.find?_nil]
    split
    · next visible => exact .visible visible
    · next other =>
      split
      · next hidden => exact .hidden other hidden
      · next missing => exact .absent (by simp [configNames, other, missing])
  · intro discovered
    cases discovered with
    | visible file => simp [configNames, file]
    | hidden other file => simp [configNames, other, file]
    | absent missing => simpa using missing

/-- What the command loads is what the file that it takes is read as. -/
theorem loadConfig_sameConfig (path : Path) (file : fs.isFile path = true)
    (place : configPath? fs project none = some path) :
    SameConfig fs (some path) (CommandLine.loadConfig fs (some path))
      (loadConfig fs project none) := by
  rw [CommandLine.loadConfig, Config.load, loadConfig, place]
  dsimp only
  cases opened : fs.readText path with
  | error fault =>
    cases fs.readText_file path file fault opened
    exact .noText path opened
  | ok text =>
    change SameConfig fs (some path)
      (((Config.parse text).mapError ConfigError.malformed).mapError _)
      ((Config.parse text).mapError _)
    cases parsed : Config.parse text with
    | error fault => exact .malformed path text fault opened parsed
    | ok config => exact .read path text config opened parsed

theorem isFile_of_discovered (path : Path) (discovered : Discovered fs project (some path)) :
    fs.isFile path = true := by
  cases discovered with
  | visible file => exact file
  | hidden _ file => exact file

/-- Where the first thing is a file, it is the one that is to be read. -/
theorem discovered_of_configFile (path : Path) (first : ConfigFile fs project none path)
    (file : fs.isFile path = true) : Discovered fs project (some path) := by
  cases first with
  | visible there => exact .visible file
  | hidden missing there =>
    refine .hidden ?_ file
    rw [Bool.eq_false_iff] at missing ⊢
    exact fun other => missing (fs.isPresent_of_isFile _ other)

theorem discovered_none
    (missing : ∀ name ∈ configNames, fs.isPresent (project.join (.ofString name)) = false) :
    Discovered fs project none := by
  refine .absent fun name listed => ?_
  have absent := missing name listed
  rw [Bool.eq_false_iff] at absent ⊢
  exact fun file => absent (fs.isPresent_of_isFile _ file)

/-- The test fails at a directory that bears one of the names. -/
theorem loadConfig_of_directoryFirst (path : Path) (directory : DirectoryFirst fs project path) :
    loadConfig fs project none = .error (.unreadableConfig path .isDirectory) := by
  obtain ⟨first, entries, located⟩ := directory
  exact (loadConfig_error_iff fs project none _).mpr
    ⟨path, first, .inl ⟨.isDirectory, fs.readText_directory path entries located, rfl⟩⟩

/-- With no file named and none for all projects, the command reads the first of the two names that
is a regular file's and passes directories over. The test reads the same file, or like the command
none, and both come to the same configuration or fail over its content, unless the first thing that
bears one of the names is a directory; there the test fails. -/
theorem discover_alike_iff
    (unshared : ∀ directory ∈ e.sharedDirectory?,
      fs.isFile (directory.join (.ofString "config.toml")) = false) :
    (∀ place, CommandLine.configPath? e fs project none = place ↔ Discovered fs project place) ∧
    ((∃ place, CommandLine.configPath? e fs project none = place ∧
        configPath? fs project none = place ∧
        SameConfig fs place (CommandLine.loadConfig fs place) (loadConfig fs project none)) ↔
      ¬ ∃ path, DirectoryFirst fs project path) ∧
    ∀ path, DirectoryFirst fs project path →
      loadConfig fs project none = .error (.unreadableConfig path .isDirectory) := by
  have command := configPath_eq_iff e fs project unshared
  refine ⟨command, ⟨?_, ?_⟩, loadConfig_of_directoryFirst fs project⟩
  · rintro ⟨place, taken, found, -⟩ ⟨path, first, entries, located⟩
    rw [(configPath_eq_some_iff fs project none path).mpr first] at found
    subst found
    have file := isFile_of_discovered fs project path ((command _).mp taken)
    obtain ⟨bytes, other⟩ := (fs.isFile_iff path).mp file
    rw [located] at other
    cases other
  · intro none
    -- What the test finds is then no directory, hence the file that the command takes.
    cases found : configPath? fs project Option.none with
    | none =>
      obtain ⟨-, missing⟩ := (configPath_eq_none_iff fs project Option.none).mp found
      refine ⟨Option.none, (command _).mpr (discovered_none fs project missing), rfl, ?_⟩
      rw [loadConfig, found]
      exact .default
    | some path =>
      have first := (configPath_eq_some_iff fs project Option.none path).mp found
      have there : fs.isPresent path = true := by
        cases first with
        | visible there => exact there
        | hidden _ there => exact there
      have file : fs.isFile path = true := by
        by_contra other
        exact none ⟨path, first, fs.exists_directory path there other⟩
      exact ⟨some path, (command _).mpr (discovered_of_configFile fs project path first file), rfl,
        loadConfig_sameConfig fs project path file found⟩

end Discovery

/-- The statement at a project with a file of the second name only. -/
theorem discover_alike_iff_hidden :
    let fs : FileSystem := ⟨.directory [
      (".railway-lint.toml".toList, .file (Text.encode "preset = \"strict\"\n".toList))],
      .ofString "/"⟩
    let e : Environment := ⟨none, some "/shared", none⟩
    let project : Path := .ofString "/"
    (∀ directory ∈ e.sharedDirectory?,
        fs.isFile (directory.join (.ofString "config.toml")) = false) ∧
      Discovered fs project (some (.ofString "/.railway-lint.toml")) ∧
      ∃ place, CommandLine.configPath? e fs project none = place ∧
        configPath? fs project none = place ∧
        SameConfig fs place (CommandLine.loadConfig fs place) (loadConfig fs project none) := by
  intro fs e project
  have unshared : ∀ directory ∈ e.sharedDirectory?,
      fs.isFile (directory.join (.ofString "config.toml")) = false := by
    rintro _ ⟨⟩
    decide +kernel
  obtain ⟨command, alike, -⟩ := discover_alike_iff e fs project unshared
  refine ⟨unshared, (command _).mp (by decide +kernel), alike.mpr ?_⟩
  rintro ⟨path, first, entries, located⟩
  cases first with
  | visible there =>
    have missing : fs.isPresent (project.join (.ofString "railway-lint.toml")) = false := by
      decide +kernel
    rw [missing] at there
    cases there
  | hidden _ _ =>
    have file : fs.isFile (project.join (.ofString ".railway-lint.toml")) = true := by
      decide +kernel
    obtain ⟨bytes, other⟩ := (fs.isFile_iff _).mp file
    rw [located] at other
    cases other

/-- A directory of the first name: the command passes it over and takes the default configuration,
the test fails at reading it. -/
theorem test_fails_at_directory :
    let fs : FileSystem := ⟨.directory [("railway-lint.toml".toList, .directory [])], .ofString "/"⟩
    let e : Environment := ⟨none, none, none⟩
    let project : Path := .ofString "/"
    CommandLine.configPath? e fs project none = none ∧
      CommandLine.loadConfig fs (CommandLine.configPath? e fs project none) = .ok .default ∧
      configPath? fs project none = some (.ofString "/railway-lint.toml") ∧
      failure? fs (some project) ⟨none, none, none⟩ =
        some ("railway-lint: failed to read config from /railway-lint.toml: " ++
          "Is a directory (os error 21)") := by
  intro fs e project
  exact ⟨by decide +kernel, rfl, by decide +kernel, by decide +kernel⟩

end ProjectCheck

end ResultLint
