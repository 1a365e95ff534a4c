import TemplateLint.FileTree
import TemplateLint.Json.Parser
import TemplateLint.Rule.Table

/-!
Rules from files: every rule file of a directory, in the order of file names, makes a rule that is
called like the file.
-/

namespace TemplateLint

namespace RuleFile

def suffix : String := ".py"

/-- Reads what a file says about a rule. -/
def ofText (s : String) : RuleFile :=
  match Json.parse? s with
  | some (.obj members) => .rule (Spec.ofJson (.obj members))
  | _ => .noFactory

def ofBytes (bytes : List UInt8) : RuleFile :=
  match Text.Utf8.decode bytes with
  | .ok cs => ofText (String.ofList cs)
  | .error _ => .noFactory

end RuleFile

namespace FileTree

/-- The rule files of a directory, by name. Files whose names start with a low line are left out. -/
def ruleFiles (t : FileTree) (dir : Path) : Except ConfigFault (List Path) :=
  if t.isDirectory dir then
    let paths := (t.names dir).mergeSort.map dir.child
    .ok (paths.filter fun p =>
      t.isFile p && p.suffix == RuleFile.suffix && !p.name.startsWith "_")
  else .error (.noDirectory dir)

/-- What a file says about a rule, if it can be opened. -/
def ruleFile (t : FileTree) (path : Path) : Except Fault RuleFile :=
  match t.find path with
  | .ok (_, .rule r) => .ok r
  | .ok (_, .file bytes) => .ok (.ofBytes bytes)
  | .ok (_, .locked) => .error .denied
  | .ok (_, .directory) => .error .isDirectory
  | .error f => .error f

/-- The rule that a file makes. -/
def loadRule (t : FileTree) (path : Path) : Except ConfigFault Rule :=
  if !path.toString.endsWith RuleFile.suffix then .error (.notImportable path)
  else match t.ruleFile path with
    | .error f => .error (.importFailed path .os (f.message path))
    | .ok (.rule s) => .ok (s.toRule path.stem (some path))
    | .ok .noFactory => .error (.noFactory path)
    | .ok (.broken kind text) => .error (.importFailed path kind text)

/-- The rules of a directory. -/
def loadRules (t : FileTree) (dir : Path) : Log × Except ConfigFault (List Rule) :=
  match (do (← t.ruleFiles dir).mapM t.loadRule : Except ConfigFault (List Rule)) with
  | .error f => ([], .error f)
  | .ok rules =>
    ([⟨.debug, .registry, s!"Loaded {rules.length} rule module(s) from {dir}"⟩], .ok rules)

end FileTree

/-- What building a table leaves behind besides the table. -/
structure Building where
  events : List Event
  log : Log
  table : Except ConfigFault RuleTable

/-- The table of the rules of a directory. -/
def RuleTable.ofDirectory (t : FileTree) (dir : Path) : Building :=
  match t.loadRules dir with
  | (log, .error f) => ⟨[], log, .error f⟩
  | (log, .ok rules) =>
    let (events, table) := RuleTable.build rules
    ⟨events, log, table⟩

end TemplateLint
