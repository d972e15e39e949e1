/-!
Reading the arguments of a command: options by name and by letter, with or without values, and
words. Arguments are read from left to right, and the first thing that ends the reading counts.
-/
namespace ResultLint.CommandLine

/-- Why arguments are not read to their end. -/
inductive Ending where
  | mistake
  | help
  | version
  deriving DecidableEq, Repr

/-- What an option asks for. -/
inductive Role where
  | flag
  /-- A value that `accepts` lets pass, once or any number of times. -/
  | value (accepts : String → Bool) (repeatable : Bool)
  | ends (ending : Ending)

structure OptionSpec where
  name : String
  letter : Option Char
  role : Role

/-- What can be said to a command. -/
structure Usage where
  options : List OptionSpec
  /-- The words for which the next command takes over. -/
  commands : List String
  /-- How many words there may be that are no command; none of them is empty. -/
  words : Nat

/-- What is said to a command: options with their values, and words, each in order. -/
structure Given where
  options : List (String × String)
  words : List String
  deriving DecidableEq, Repr

namespace Given

def nothing : Given := ⟨[], []⟩

def isGiven (g : Given) (name : String) : Bool :=
  g.options.any fun o => o.1 == name

/-- All values of an option, in order. -/
def values (g : Given) (name : String) : List String :=
  (g.options.filter fun o => o.1 == name).map Prod.snd

def value? (g : Given) (name : String) : Option String :=
  (g.values name).head?

/-- A flag or a value behind what is given already; what counts once may not come twice. -/
def addOption (g : Given) (option : OptionSpec) (value : String) : Except Ending Given :=
  let added := { g with options := g.options ++ [(option.name, value)] }
  match option.role with
  | .ends ending => .error ending
  | .flag => if g.isGiven option.name then .error .mistake else .ok added
  | .value accepts repeatable =>
    if accepts value && (repeatable || !g.isGiven option.name) then .ok added
    else .error .mistake

/-- A word behind what is given already. -/
def addWord (usage : Usage) (g : Given) (word : String) : Except Ending Given :=
  if g.words.length < usage.words && !word.isEmpty then .ok { g with words := g.words ++ [word] }
  else .error .mistake

def addWords (usage : Usage) (g : Given) (words : List String) : Except Ending Given :=
  words.foldlM (addWord usage) g

end Given

namespace Usage

def named? (usage : Usage) (name : String) : Option OptionSpec :=
  usage.options.find? fun o => o.name == name

def lettered? (usage : Usage) (letter : Char) : Option OptionSpec :=
  usage.options.find? fun o => o.letter == some letter

/-- An option by its name, with what stands behind an equals sign as its value. A value that is
still to come leaves the option open. -/
def readName (usage : Usage) (g : Given) (text : List Char) :
    Except Ending (Given × Option OptionSpec) :=
  let name := text.takeWhile (· != '=')
  let attached := (text.dropWhile (· != '=')).tail?
  match usage.named? (String.ofList name) with
  | none => .error .mistake
  | some option =>
    match option.role, attached with
    | .value _ _, some value => do return (← g.addOption option (String.ofList value), none)
    | .value _ _, none => .ok (g, some option)
    | _, some _ => .error .mistake
    | _, none => do return (← g.addOption option "", none)

/-- Options by their letters. Behind the letter of one that wants a value the rest is that value,
an equals sign before it left out. -/
def readLetters (usage : Usage) (g : Given) : List Char → Except Ending (Given × Option OptionSpec)
  | [] => .ok (g, none)
  | letter :: rest =>
    match usage.lettered? letter with
    | none => .error .mistake
    | some option =>
      match option.role, rest with
      | .value _ _, [] => .ok (g, some option)
      | .value _ _, '=' :: value => do
        return (← g.addOption option (String.ofList value), none)
      | .value _ _, value => do return (← g.addOption option (String.ofList value), none)
      | _, rest => do readLetters usage (← g.addOption option "") rest

/-- Whether an argument is no value of an option before it. -/
def isOption (argument : String) : Bool :=
  match argument.toList with
  | ['-'] => false
  | c :: _ => c = '-'
  | [] => false

/-- An argument that begins with a hyphen, or a word. -/
def readArgument (usage : Usage) (g : Given) (argument : String) :
    Except Ending (Given × Option OptionSpec) :=
  match argument.toList with
  | '-' :: '-' :: text => usage.readName g text
  | '-' :: letter :: more => usage.readLetters g (letter :: more)
  | _ => do return (← g.addWord usage argument, none)

/-- Reads arguments up to the next command, and returns that with the arguments behind it. -/
def read (usage : Usage) (g : Given) :
    List String → Except Ending (Given × Option (String × List String))
  | [] => .ok (g, none)
  | argument :: rest =>
    if usage.commands.contains argument then .ok (g, some (argument, rest))
    else if argument = "--" then do return (← g.addWords usage rest, none)
    else
      match usage.readArgument g argument, rest with
      | .error ending, _ => .error ending
      | .ok (g, none), rest => read usage g rest
      | .ok (_, some _), [] => .error .mistake
      | .ok (g, some option), value :: rest =>
        if isOption value then .error .mistake
        else
          match g.addOption option value with
          | .error ending => .error ending
          | .ok g => read usage g rest

end Usage

end ResultLint.CommandLine
