import TemplateLint.FileTree
import TemplateLint.Text.Case
import TemplateLint.Text.Similar

/-!
How a command is used: which options and which argument it takes, what their values may be, and what
can be wrong with the words that it is called with.
-/

namespace TemplateLint.CommandLine

/-- What a path names. -/
inductive Target where
  | path | file | directory
deriving DecidableEq, Repr

def Target.label : Target → String
  | .path => "Path"
  | .file => "File"
  | .directory => "Directory"

/-- The values of an option. -/
inductive Values where
  /-- The option is set or not. -/
  | nothing
  | text
  /-- One of these names, in either case. -/
  | name (among : List String)
  /-- A path that names something of this kind. -/
  | existing (target : Target)
deriving DecidableEq, Repr

/-- An option; the first of its names is the one that it is known by. -/
structure Switch where
  names : List String
  values : Values := .text

def Switch.name (s : Switch) : String := s.names.head?.getD ""

/-- The argument of a command. -/
structure Argument where
  name : String
  target : Target

/-- How a command is used. -/
structure Usage where
  /-- The words that call the command, and what may follow them. -/
  command : String
  words : String
  options : List Switch
  argument : Option Argument := none
  /-- Whether the words behind the options call another command, with options of its own. -/
  leads : Bool := false
  /-- The text that follows the first line of the help. -/
  help : List String

namespace Usage

def firstLine (u : Usage) : String := s!"Usage: {u.command} {u.words}"

def helpText (u : Usage) : String := String.join ((u.firstLine :: u.help).map (· ++ "\n"))

end Usage

/-- What is wrong with a path. -/
inductive PathFault where
  | absent
  | isFile
  | isDirectory
  | locked
deriving DecidableEq, Repr

/-- What is wrong with the words that a command is called with. -/
inductive Misuse where
  | unknownOption (name : String) (similar : List String)
  | valueMissing (name : String)
  | valueGiven (name : String)
  | unknownName (parameter : List String) (value : String) (among : List String)
  | badPath (parameter : List String) (value : String) (target : Target) (fault : PathFault)
  | argumentMissing (name : String)
  | tooMany (words : List String)
  | unknownCommand (name : String) (similar : List String)
deriving DecidableEq, Repr

namespace Misuse

def listed (names : List String) : String := ", ".intercalate (names.map Text.quoted)

/-- The names that may have been meant. -/
def suggestion : List String → String
  | [] => ""
  | [name] => s!" Did you mean {Text.quoted name}?"
  | names => s!" (Did you mean one of: {listed names.mergeSort}?)"

def badValue (parameter : List String) (reason : String) : String :=
  let hint := " / ".intercalate (parameter.map Text.quoted)
  s!"Invalid value for {hint}: {reason}"

def message : Misuse → String
  | unknownOption name similar => s!"No such option {Text.quoted name}." ++ suggestion similar
  | valueMissing name => s!"Option {Text.quoted name} requires an argument."
  | valueGiven name => s!"Option {Text.quoted name} does not take a value."
  | unknownName parameter value among =>
    badValue parameter s!"{Text.quoted value} is not one of {listed among}."
  | badPath parameter value target fault =>
    let problem := match fault with
      | .absent => "does not exist."
      | .isFile => "is a file."
      | .isDirectory => "is a directory."
      | .locked => "is not readable."
    badValue parameter s!"{target.label} {Text.quoted value} {problem}"
  | argumentMissing name => s!"Missing argument {Text.quoted name}."
  | tooMany [word] => s!"Got unexpected extra argument ({word})"
  | tooMany words =>
    let words := " ".intercalate words
    s!"Got unexpected extra arguments ({words})"
  | unknownCommand name similar => s!"No such command {Text.quoted name}." ++ suggestion similar

/-- What is told about a misuse. -/
def report (u : Usage) (m : Misuse) : String :=
  let help := Text.quoted s!"{u.command} --help"
  s!"{u.firstLine}\nTry {help} for help.\n\nError: {m.message}\n"

end Misuse

end TemplateLint.CommandLine
