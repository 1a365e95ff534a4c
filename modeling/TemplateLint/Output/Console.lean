import TemplateLint.Output.Markup
import TemplateLint.Output.Text
import TemplateLint.Rule.Table

/-!
What is shown on a console. Texts that come from templates and rules are escaped, except the paths
of templates and the names of rules in lists.
-/

namespace TemplateLint.Output

/-- Printing, which keeps what has been printed when a text cannot be shown. -/
abbrev Printing := ExceptT Markup.Fault (StateM String)

namespace Console

def print (markup : String) : Printing Unit := do
  let shown ← (Markup.shown markup : Except Markup.Fault String)
  modify (· ++ shown)

/-- Prints text without markup. -/
def printPlain (s : String) : Printing Unit := modify (· ++ s ++ "\n")

def styleOf : Severity → String
  | .log => "dim"
  | .warn => "yellow"
  | .fatal => "bold red"

/-- A text in a style. -/
def styled (style s : String) : String := s!"[{style}]{s}[/{style}]"

def lineText : Option Int → String
  | some n => toString n
  | none => "?"

/-- What is printed of a diagnostic: a line, and its source below if there is one. -/
def entry (d : Diagnostic) : List String :=
  let label := styled (styleOf d.severity) d.severity.label
  let rule := styled "cyan" (Markup.escape d.rule)
  let source := if d.source.isEmpty then [] else ["    " ++ styled "dim" (Markup.escape d.source)]
  s!"  {label} line {lineText d.line} {rule} {Markup.escape d.message}" :: source

def diagnostic (d : Diagnostic) : Printing Unit := do
  for markup in entry d do print markup

/-- What is printed above the diagnostics of a report. -/
def heading (x : Report) : String :=
  let name := styled "bold" (Markup.escape x.filename)
  s!"\n{name} ({x.status.text})"

def report (x : Report) : Printing Unit := do
  print (heading x)
  for d in Text.shown x do diagnostic d

def noFindings : String := "\n" ++ styled "green" "No lint findings."

/-- The reports that have entries. -/
def reports (r : Results) : Printing Unit := do
  let reports := r.reports.filter fun x => !x.diagnostics.isEmpty
  if reports.isEmpty then print noFindings
  for x in reports do report x

/-- The templates that could not be linted. -/
def failures (r : Results) : Printing Unit := do
  if r.failed.isEmpty then return
  print ("\n" ++ styled "bold red" "Failed Files:")
  for (path, reason) in r.failed do
    print ("  " ++ styled "red" "✗" ++ s!" {path}")
    print ("    " ++ styled "dim" (Markup.escape reason))

def padEnd (width : Nat) (s : String) : String :=
  s ++ String.ofList (List.replicate (width - s.length) ' ')

def padStart (width : Nat) (s : String) : String :=
  String.ofList (List.replicate (width - s.length) ' ') ++ s

/-- A row of the summary table. -/
def summaryRow (label : String) (n : Nat) : String :=
  s!"│ {padEnd 16 label} │ {padStart 9 (toString n)} │"

def summaryLines (r : Results) : List String :=
  [padEnd 32 "",
    padEnd 32 (padStart 19 "Summary"),
    "┏━━━━━━━━━━━━━━━━━━┳━━━━━━━━━━━┓",
    "┃ Status           ┃ Documents ┃",
    "┡━━━━━━━━━━━━━━━━━━╇━━━━━━━━━━━┩"] ++
  Status.all.map (fun s => summaryRow s.text (r.count s)) ++
  [summaryRow "unreadable files" r.failed.length,
    "└──────────────────┴───────────┘"]

/-- How many reports have each status. -/
def summary (r : Results) : Printing Unit := do
  for line in summaryLines r do printPlain line

def results (r : Results) : Printing Unit := do
  reports r
  failures r
  summary r
  printPlain ""

/-- The rules of a table and the keys that they handle. -/
def rules (t : RuleTable) : Printing Unit := do
  if t.isEmpty then print (styled "yellow" "No rules loaded.")
  else
    print ("\n" ++ styled "bold blue" s!"Rules ({t.names.length}):" ++ "\n")
    for (name, keys) in t.described do
      print ("  " ++ styled "cyan" "•" ++ s!" {name}")
      let keys := if keys.isEmpty then "no callbacks" else ", ".intercalate keys
      print ("    " ++ styled "dim" keys)
    printPlain ""

def error (message : String) : Printing Unit := print (styled "bold red" "Error:" ++ s!" {message}")

end Console

end TemplateLint.Output
