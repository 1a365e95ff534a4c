import TemplateLint.Dialect
import TemplateLint.Json.Parser
import TemplateLint.Linter
import TemplateLint.Validation

/-!
Settings of a run. They are given as JSON, section by section; what is not given is taken from
environment variables, and what is not there either has a default.
-/

namespace TemplateLint

structure Settings where
  /-- The directory of rule files, loaded in the order of their names. -/
  rulesDir : Option Path := none
  /-- The name of the application, which rules can ask for. -/
  app : Option String := none
  dialect : Dialect := {}
  /-- The names of the extensions that templates use. -/
  extensions : List String := []
  mode : Mode := .block
  /-- The suffixes of the files that are linted in a directory. -/
  templateSuffixes : List String :=
    [".html", ".htm", ".j2", ".jinja", ".jinja2", ".njk", ".tmpl"]
  /-- Patterns of files that are not linted. -/
  ignorePatterns : List String := []
  /-- Patterns of files that hold patterns of files that are not linted. -/
  ignoreFilePatterns : List String := ["**/.templintignore"]

def Mode.text : Mode → String
  | .block => "block"
  | .template => "template"
  | .nothing => "nothing"

def Mode.ofText? (s : String) : Option Mode := [block, template].find? (·.text == s)

namespace Settings

inductive Fault where
  /-- These fields have wrong values, or are none. -/
  | invalid (fields : List String)
  /-- The value of an environment variable cannot be read. -/
  | unreadable (name : String)
deriving DecidableEq, Repr

/-- The values given for the fields of a section. -/
abbrev Section := List (String × Json)

def Section.get? (s : Section) (name : String) : Option Json := (s.find? (·.1 == name)).map (·.2)

/-- The members of an object; the last one of a name counts. -/
def Section.ofJson : Json → Section
  | .obj members => members.reverse
  | _ => []

/-- Reading of a section, which collects the fields that have wrong values. -/
abbrev Checking := ReaderT Section (StateM (List String))

/-- The value of a field; `reader` tells at which places a value is wrong. -/
def field {α : Type} (name : String) (default : α) (reader : Json → Except (List String) α) :
    Checking α := do
  match Section.get? (← read) name with
  | none => return default
  | some j =>
    match reader j with
    | .ok a => return a
    | .error places =>
      modify (· ++ places.map (name ++ ·))
      return default

/-- A reader of values that are right or wrong as a whole. -/
def plain {α : Type} (reader : Json → Option α) (j : Json) : Except (List String) α :=
  match reader j with
  | some a => .ok a
  | none => .error [""]

def optional {α : Type} (reader : Json → Option α) : Json → Option (Option α)
  | .null => some none
  | j => (reader j).map some

def text (name : String) (default : String) : Checking String :=
  field name default (plain Validation.text?)

def optionalText (name : String) : Checking (Option String) :=
  field name none (plain (optional Validation.text?))

def flag (name : String) : Checking Bool := field name false (plain Validation.bool?)

def texts (name : String) (default : List String) : Checking (List String) :=
  field name default fun j =>
    match Validation.texts? j with
    | .ok ss => .ok ss
    | .error none => .error [""]
    | .error (some places) => .error (places.map fun i => s!".{i}")

/-- Reads a section of which these are the fields. -/
def check {α : Type} (known : List String) (s : Section) (c : Checking α) : Except Fault α :=
  let unknown := (s.map (·.1)).filter fun n => !known.contains n
  let (a, wrong) := (c.run s).run unknown
  if wrong.isEmpty then .ok a else .error (.invalid wrong)

/-- Environment variables. Of two whose names differ in case only, the later one counts. -/
abbrev Variables := List (String × String)

def Variables.get? (vs : Variables) (name : String) : Option String :=
  (vs.reverse.find? fun v => Text.lowered v.1 == Text.lowered name).map (·.2)

/-- The fields of a section, whether their variables hold JSON, and how the names of these
variables start. -/
structure Fields where
  start : String
  names : List (String × Bool)

def Fields.known (f : Fields) : List String := f.names.map (·.1)

def rulesFields : Fields := ⟨"RULES_", [("rules_dir", false), ("app", false)]⟩

def syntaxFields : Fields := ⟨"SYNTAX_", [("block_start_string", false),
  ("block_end_string", false), ("variable_start_string", false), ("variable_end_string", false),
  ("comment_start_string", false), ("comment_end_string", false),
  ("line_statement_prefix", false), ("line_comment_prefix", false), ("trim_blocks", false),
  ("lstrip_blocks", false), ("extensions", true)]⟩

def ownFields : Fields := ⟨"TEMPLINT_", [("rules", true), ("syntax", true), ("mode", false),
  ("template_suffixes", true), ("ignore_patterns", true), ("ignore_file_patterns", true)]⟩

/-- The names of the variables that are looked for. -/
def variableNames : List String :=
  [rulesFields, syntaxFields, ownFields].flatMap fun f =>
    f.known.map fun name => f.start ++ name.toUpper

/-- The section that environment variables give. A JSON value of null gives nothing. -/
def sectionOf (f : Fields) (vs : Variables) : Except Fault Section := do
  let entries ← f.names.mapM fun (name, isJson) => do
    match vs.get? (f.start ++ name) with
    | none => return none
    | some v =>
      if isJson then
        match Json.parse? v with
        | some .null => return none
        | some j => return some (name, j)
        | none => throw (.unreadable (f.start ++ name))
      else return some (name, .str v)
  return entries.filterMap id

/-- A section that is given, and what the environment adds to it. -/
def merged (f : Fields) (vs : Variables) (given : Section) : Except Fault Section := do
  return given ++ (← sectionOf f vs)

def rulesSection : Checking (Option Path × Option String) := do
  let dir ← optionalText "rules_dir"
  return (dir.map Path.ofString, ← optionalText "app")

def syntaxSection : Checking (Dialect × List String) := do
  let d : Dialect := {}
  let d : Dialect := { d with
    blockStart := ← text "block_start_string" d.blockStart
    blockEnd := ← text "block_end_string" d.blockEnd
    variableStart := ← text "variable_start_string" d.variableStart
    variableEnd := ← text "variable_end_string" d.variableEnd
    commentStart := ← text "comment_start_string" d.commentStart
    commentEnd := ← text "comment_end_string" d.commentEnd
    lineStatement := ← optionalText "line_statement_prefix"
    lineComment := ← optionalText "line_comment_prefix"
    trimBlocks := ← flag "trim_blocks"
    lstripBlocks := ← flag "lstrip_blocks" }
  return (d, ← texts "extensions" [])

def readRules (vs : Variables) (given : Section) : Except Fault (Option Path × Option String) := do
  check rulesFields.known (← merged rulesFields vs given) rulesSection

def readSyntax (vs : Variables) (given : Section) : Except Fault (Dialect × List String) := do
  check syntaxFields.known (← merged syntaxFields vs given) syntaxSection

/-- The fields outside the sections for rules and syntax. -/
def ownSection (rules : Option Path × Option String) (syn : Dialect × List String) :
    Checking Settings := do
  let base : Settings := {}
  return { base with
    rulesDir := rules.1, app := rules.2, dialect := syn.1, extensions := syn.2
    mode := ← field "mode" .block (plain fun j => j.str?.bind Mode.ofText?)
    templateSuffixes := ← texts "template_suffixes" base.templateSuffixes
    ignorePatterns := ← texts "ignore_patterns" base.ignorePatterns
    ignoreFilePatterns := ← texts "ignore_file_patterns" base.ignoreFilePatterns }

/-- The settings of the environment. -/
def ofVariables (vs : Variables) : Except Fault Settings := do
  let own ← sectionOf ownFields vs
  let rules ← part own "rules" (readRules vs)
  let syn ← part own "syntax" (readSyntax vs)
  let wrong := wrongIn "rules" rules ++ wrongIn "syntax" syn
  check ownFields.known own do
    modify (· ++ wrong)
    ownSection (rules.toOption.getD (none, none)) (syn.toOption.getD ({}, []))
where
  /-- A part is read from its own variables unless it is given as a whole. -/
  part {α : Type} (own : Section) (name : String) (reader : Section → Except Fault α) :
      Except Fault (Except (List String) α) :=
    match own.get? name with
    | none => (reader []).map .ok
    | some (.obj members) =>
      match reader (Section.ofJson (.obj members)) with
      | .ok a => .ok (.ok a)
      | .error (.invalid fields) => .ok (.error (fields.map ("." ++ ·)))
      | .error f => .error f
    | some _ => .ok (.error [""])
  wrongIn {α : Type} (name : String) : Except (List String) α → List String
    | .ok _ => []
    | .error places => places.map (name ++ ·)

/-- Settings that are given as JSON. Their parts are read one after the other, and the first one
with wrong values is refused. -/
def ofJson (vs : Variables) (j : Json) : Except Fault Settings := do
  let given := Section.ofJson j
  let rules ← readRules vs (Section.ofJson ((given.get? "rules").getD .null))
  let syn ← readSyntax vs (Section.ofJson ((given.get? "syntax").getD .null))
  let env ← sectionOf ownFields vs
  let rest := given.filter fun e => e.1 != "rules" && e.1 != "syntax"
  check ownFields.known (rest ++ env) (ownSection rules syn)

end Settings

end TemplateLint
