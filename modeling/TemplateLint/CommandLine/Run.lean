import TemplateLint.Batch
import TemplateLint.CommandLine.Command
import TemplateLint.Output.Console
import TemplateLint.Output.Json
import TemplateLint.Output.Sarif
import TemplateLint.Text.Word

/-!
Running the program: it reads the words that it is called with, does what the command asks for, and
ends with an exit code, or because something went wrong.
-/

namespace TemplateLint.CommandLine

/-- What breaks a command off. -/
inductive Crash where
  | settings (f : Settings.Fault)
  | batch (f : Batch.Fault)
  | template (f : Linter.Fault)
  | markup (f : Output.Markup.Fault)
  | writing (f : FileTree.Fault) (path : Path)

def Crash.message : Crash → String
  | settings (.invalid fields) => "These settings have wrong values: " ++ ", ".intercalate fields
  | settings (.unreadable name) => s!"The value of {name} cannot be read"
  | batch f => f.message
  | template f => f.message
  | markup f => f.message
  | writing f path => f.message path

inductive Ending where
  | exit (code : Nat)
  | misuse (u : Usage) (m : Misuse)
  | crash (c : Crash)

/-- What a command has done so far. -/
structure Progress where
  files : FileTree
  output : String := ""
  /-- The files that have been written. -/
  written : List (Path × List UInt8) := []
  log : Log := []
  /-- The level from which on records are shown. -/
  level : Level := .warning

/-- Work that an ending stops. -/
abbrev Work := ExceptT Ending (StateM Progress)

namespace Work

def stop {α : Type} (e : Ending) : Work α := throw e

def crash {α : Type} (c : Crash) : Work α := stop (.crash c)

def write (s : String) : Work Unit := modify fun p => { p with output := p.output ++ s }

def tell (l : Log) : Work Unit := modify fun p => { p with log := p.log ++ l }

/-- Prints to the console. -/
def console (p : Output.Printing Unit) : Work Unit := do
  let (r, s) := p.run ""
  write s
  match r with
  | .ok () => return
  | .error f => crash (.markup f)

/-- Ends with a message about an error. -/
def fail {α : Type} (message : String) : Work α := do
  console (Output.Console.error message)
  stop (.exit Status.fatal.rank)

end Work

open Work

/-- What a command chooses for a run. -/
structure Choices where
  mode : String := "block"
  /-- Patterns with commas between them. -/
  ignore : String := ""
  ignoreFiles : String := "**/.templintignore"
  trimBlocks : Bool := false
  lstripBlocks : Bool := false

/-- The settings of a run: what is chosen for it, and what the environment adds. -/
def settingsOf (vs : Settings.Variables) (group : Arguments) (c : Choices) : Work Settings := do
  let text? (name : String) := Json.ofOption Json.str (group.value? name)
  let list (s : String) := Json.arr ((Pattern.ofList s).map Json.str)
  let given := Json.obj [
    ("rules", .obj [("rules_dir", text? rulesDirName), ("app", text? appName)]),
    ("syntax", .obj [("trim_blocks", .bool c.trimBlocks), ("lstrip_blocks", .bool c.lstripBlocks)]),
    ("mode", .str c.mode), ("ignore_patterns", list c.ignore),
    ("ignore_file_patterns", list c.ignoreFiles)]
  match Settings.ofJson vs given with
  | .ok s => return s
  | .error f => crash (.settings f)

/-- Prints a text, or writes it to a file. -/
def deliver (text : String) : Option String → Work Unit
  | none => write (text ++ "\n")
  | some file => do
    let path := Path.ofString file
    let bytes := Text.Utf8.encode text.toList
    match (← get).files.write path bytes with
    | .ok files =>
      modify fun p => { p with files := files, written := p.written ++ [(path, bytes)] }
    | .error f => crash (.writing f path)

def lint (vs : Settings.Variables) (group a : Arguments) : Work Unit := do
  let base : Choices := {}
  let s ← settingsOf vs group {
    mode := (a.value? modeName).getD base.mode
    ignore := (a.value? ignoreName).getD base.ignore
    ignoreFiles := (a.value? ignoreFilesName).getD base.ignoreFiles
    trimBlocks := a.has trimBlocksName
    lstripBlocks := a.has lstripBlocksName }
  let path := Path.ofString a.argument
  let format := (a.value? formatName).getD "console"
  if format = "console" then
    let name := Output.Console.styled "cyan" path.toString
    console (Output.Console.print s!"\nLinting: {name}\n")
  let o := Batch.run (← get).files s path
  tell o.log
  match o.results with
  | .error (.rules f) => fail (Output.Markup.escape f.message)
  | .error f => crash (.batch f)
  | .ok r =>
    match format with
    | "text" => deliver (Output.Text.results r) (a.value? outputName)
    | "json" => deliver (Output.Json.results r true) (a.value? outputName)
    | "sarif" => deliver (Output.Sarif.results r true) (a.value? outputName)
    | _ => console (Output.Console.results r)
    stop (.exit r.exitCode)

def rules (vs : Settings.Variables) (group : Arguments) : Work Unit := do
  let s ← settingsOf vs group {}
  let b := Batch.tableOf (← get).files s
  tell b.log
  match b.table with
  | .error f => fail (Output.Markup.escape f.message)
  | .ok t => console (Output.Console.rules t)

def inspect (vs : Settings.Variables) (group a : Arguments) : Work Unit := do
  let s ← settingsOf vs group { mode := "template" }
  let path := Path.ofString a.argument
  let refuse {α : Type} (reason : String) : Work α :=
    fail ("Failed to parse template: " ++ Output.Markup.escape reason)
  if let .error f := s.dialect.check then crash (.batch (.dialect f))
  match Discovery.readTemplate (← get).files path with
  | .error reason => refuse reason
  | .ok source =>
    let (l, tree) := (Batch.linterOf s .empty).read source (some path.name) (some path.toString)
    tell l.run.log
    match tree with
    | .error f => if f.isExpected then refuse f.message else crash (.template f)
    | .ok tree =>
      match tree.describe? (l.reach none) with
      | none => crash (.template .undescribed)
      | some lines =>
        for line in lines do
          console (Output.Console.print (Output.Markup.escape line))

/-- Runs a command. -/
def Command.run (vs : Settings.Variables) (group a : Arguments) : Command → Work Unit
  | .lint => CommandLine.lint vs group a
  | .rules => CommandLine.rules vs group
  | .inspect => CommandLine.inspect vs group a

/-- Reads words as a use of a command; help is shown at once. -/
def request (u : Usage) (words : List String) : Work Arguments := do
  match u.read (← get).files words with
  | .error m => stop (.misuse u m)
  | .ok .help =>
    write u.helpText
    stop (.exit 0)
  | .ok (.run a) => return a

/-- Refuses a word that names no command. If it does not start like a name, it is read as an option
first. -/
def refuse (name : String) (words : List String) : Work Unit := do
  if name.toList.head?.any fun c => c == '_' || !Text.isWord c then
    let _ ← request .program (name :: words)
  let similar := Text.likest (Command.all.map Command.name) name
  stop (.misuse .program (.unknownCommand name similar))

/-- Does what the words ask for. -/
def work (vs : Settings.Variables) (words : List String) : Work Unit := do
  let group ← request .program words
  if let some level := (group.value? logLevelName).bind fun n => Level.ofLabel? n.toUpper then
    modify fun p => { p with level := level }
  match group.rest with
  | [] => write Usage.program.helpText
  | name :: words =>
    match Command.ofName? name with
    | none => refuse name words
    | some c => c.run vs group (← request c.usage words)

/-- Calls the program with words, on a tree of files and with environment variables. -/
def run (files : FileTree) (vs : Settings.Variables) (words : List String) : Ending × Progress :=
  let (r, p) := (work vs words).run { files := files }
  match r with
  | .ok () => (.exit 0, p)
  | .error e => (e, p)

end TemplateLint.CommandLine
