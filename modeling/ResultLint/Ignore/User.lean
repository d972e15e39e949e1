import ResultLint.Text.Blank
import ResultLint.Text.Search

/-!
Where a user's own ignore file is. A git configuration may name it; it is looked for without regard
to the sections of the configuration, and a tilde in it is the user's home directory.
-/
namespace ResultLint.Ignore

/-- The setting that names the file. -/
def excludesSetting : List Char := "excludesfile".toList

/-- A value without the quotes and blanks around it. -/
def unquoted (value : List Char) : List Char :=
  let value := Text.trim value
  let value := (Text.stripStart? ['"'] value).getD value
  Text.trim ((Text.stripEnd? ['"'] value).getD value)

/-- The file that a line of a configuration names. -/
def excludesOfLine? (line : List Char) : Option (List Char) :=
  let line := Text.trimStart line
  if (line.take excludesSetting.length).map Char.toLower = excludesSetting then
    match Text.trimStart (line.drop excludesSetting.length) with
    | '=' :: value =>
      let file := unquoted value
      if file.isEmpty || file.any Text.isBlank then none else some file
    | _ => none
  else none

/-- The file that a configuration names. -/
def excludesFile? (home : List Char) (config : List Char) : Option (List Char) :=
  ((Text.splitOn '\n' config).findSome? excludesOfLine?).map fun file =>
    file.flatMap fun c => if c = '~' then home else [c]

end ResultLint.Ignore
