import TemplateLint.CommandLine.Arguments

/-!
The commands of the program and how they are used.
-/

namespace TemplateLint.CommandLine

def program : String := "templint"

inductive Command where
  | lint | rules | inspect
deriving DecidableEq, Repr

namespace Command

def all : List Command := [inspect, lint, rules]

def name : Command → String
  | .lint => "lint"
  | .rules => "rules"
  | .inspect => "inspect"

def ofName? (name : String) : Option Command := all.find? (·.name == name)

end Command

/-- The names of the options. -/
def logLevelName : String := "--log-level"
def rulesDirName : String := "--rules-dir"
def appName : String := "--app"
def modeName : String := "--mode"
def formatName : String := "--format"
def outputName : String := "--output"
def ignoreName : String := "--ignore"
def ignoreFilesName : String := "--ignore-files"
def trimBlocksName : String := "--trim-blocks"
def lstripBlocksName : String := "--lstrip-blocks"

namespace Usage

/-- The program without a command. -/
def program : Usage where
  command := CommandLine.program
  words := "[OPTIONS] [COMMAND] [ARGS]..."
  options := [⟨[logLevelName], .name ["debug", "info", "warning", "error", "critical"]⟩,
    ⟨[rulesDirName], .existing .directory⟩, ⟨[appName], .text⟩]
  leads := true
  help := [
    "",
    "  Rule-based static analysis for Jinja2 templates.",
    "",
    "Options:",
    "  --log-level [debug|info|warning|error|critical]",
    "                                  Set the logging level",
    "  --rules-dir DIRECTORY           Directory of rule modules, loaded in file name",
    "                                  order",
    "  --app TEXT                      Application name made available to rules",
    "  --help                          Show this message and exit.",
    "",
    "Commands:",
    "  inspect  Show the categories every node of a template matches.",
    "  lint     Lint a template or a directory of templates.",
    "  rules    List the loaded rules and the categories they handle."]

def lint : Usage where
  command := s!"{CommandLine.program} {Command.lint.name}"
  words := "[OPTIONS] PATH"
  options := [⟨[modeName], .name ["block", "template"]⟩,
    ⟨[formatName], .name ["console", "text", "json", "sarif"]⟩, ⟨[outputName, "-o"], .text⟩,
    ⟨[ignoreName], .text⟩, ⟨[ignoreFilesName], .text⟩, ⟨[trimBlocksName], .nothing⟩,
    ⟨[lstripBlocksName], .nothing⟩]
  argument := some ⟨"PATH", .path⟩
  help := [
    "",
    "  Lint a template or a directory of templates.",
    "",
    "Options:",
    "  --mode [block|template]         Lint \x7b% lint %\x7d blocks only, or whole",
    "                                  templates (default: block)",
    "  --format [console|text|json|sarif]",
    "                                  Output format (default: console)",
    "  -o, --output PATH               Output file path (default: stdout)",
    "  --ignore TEXT                   Comma-separated list of glob patterns to",
    "                                  ignore files (e.g., 'vendor/**,*.txt')",
    "  --ignore-files TEXT             Comma-separated list of glob patterns to find",
    "                                  ignore files (default: '**/.templintignore')",
    "  --trim-blocks                   Parse with trim_blocks enabled",
    "  --lstrip-blocks                 Parse with lstrip_blocks enabled",
    "  --help                          Show this message and exit."]

def rules : Usage where
  command := s!"{CommandLine.program} {Command.rules.name}"
  words := "[OPTIONS]"
  options := []
  help := [
    "",
    "  List the loaded rules and the categories they handle.",
    "",
    "Options:",
    "  --help  Show this message and exit."]

def inspect : Usage where
  command := s!"{CommandLine.program} {Command.inspect.name}"
  words := "[OPTIONS] FILE"
  options := []
  argument := some ⟨"FILE", .file⟩
  help := [
    "",
    "  Show the categories every node of a template matches.",
    "",
    "  Rules key their callbacks by these category names.",
    "",
    "Options:",
    "  --help  Show this message and exit."]

end Usage

def Command.usage : Command → Usage
  | .lint => .lint
  | .rules => .rules
  | .inspect => .inspect

end TemplateLint.CommandLine
