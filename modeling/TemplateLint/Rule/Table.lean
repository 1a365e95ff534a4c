import TemplateLint.Rule.Basic

/-!
The rule table: the callbacks of all rules by category and phase. It is built as a whole or not at
all.
-/

namespace TemplateLint

/-- Why rules cannot be made into a table. -/
inductive ConfigFault where
  | noDirectory (path : Path)
  | notImportable (path : Path)
  | importFailed (path : Path) (kind : ErrorKind) (text : String)
  | noFactory (path : Path)
  | createFailed (source : String) (f : Failure)
  | notMapping (source : String)
  | badKey (key : Json) (source : String)
  | notCallable (key : Json) (source : String)
deriving Repr

namespace ConfigFault

def message : ConfigFault → String
  | noDirectory path => s!"Rules directory does not exist: {path}"
  | notImportable path => s!"Cannot import rule module {path}"
  | importFailed path kind text => s!"Failed to import rule module {path}: {kind.display text}"
  | noFactory path => s!"Rule module {path} must define a callable 'create(context)'"
  | createFailed source f => s!"Rule module {source} failed in create(): {f.message}"
  | notMapping source =>
    s!"Rule module {source} must return a mapping of categories to callbacks"
  | badKey key source => s!"{RuleKey.refusal key}. See {source}"
  | notCallable key source => s!"Callback for {key.plain} in {source} is not callable"

end ConfigFault

/-- A callback of a rule for one category and phase. -/
structure Registration where
  rule : String
  category : String
  phase : Phase
  callback : Callback

/-- The written form of what the callback is registered for. -/
def Registration.key (r : Registration) : String := RuleKey.text r.category r.phase

structure RuleTable where
  categories : CategoryTable
  /-- The names of the rules, in the order in which they were given. -/
  names : List String
  /-- The callbacks of all rules, in the same order. -/
  registrations : List Registration

namespace RuleTable

def empty : RuleTable := ⟨.standard, [], []⟩

/-- The callbacks for a category and a phase. -/
def callbacksFor (t : RuleTable) (category : String) (phase : Phase) : List Registration :=
  t.registrations.filter fun r => r.category == category && r.phase == phase

/-- All callbacks by category, then by phase, then in the order of their registration. -/
def registered (t : RuleTable) : List Registration :=
  t.categories.names.flatMap fun c => Phase.all.flatMap fun p => t.callbacksFor c p

def isEmpty (t : RuleTable) : Bool := t.registrations.isEmpty

/-- The rule names, each with the keys of the rules of that name. -/
def described (t : RuleTable) : List (String × List String) :=
  t.names.eraseDups.map fun n => (n, (t.registered.filter (·.rule == n)).map (·.key))

/-- The callbacks for the nodes of a kind, in the order in which they are called. -/
def callbacksOf (t : RuleTable) (k : Kind) (phase : Phase) : List Registration :=
  (t.categories.classify k).flatMap fun c => t.callbacksFor c phase

/-- Registers what a rule returned for its keys, up to the first entry that is wrong. -/
def registerAll (categories : CategoryTable) (rule : Rule) :
    List (Json × Option Callback) → Except ConfigFault (List Registration)
  | [] => .ok []
  | (key, handler) :: entries =>
    match RuleKey.parse? categories key with
    | none => .error (.badKey key rule.source)
    | some (category, phase) =>
      match handler with
      | none => .error (.notCallable key rule.source)
      | some callback => do
        let rest ← registerAll categories rule entries
        return ⟨rule.name, category, phase, callback⟩ :: rest

/-- Creates a rule, and registers what it returns. No document is open meanwhile. -/
def register (categories : CategoryTable) (rule : Rule) :
    List Event × Except ConfigFault (List Registration) :=
  let (run, failure) := Run.performAll rule.name Rule.creationKey rule.creating (.start .empty)
  (run.events,
    match failure with
    | some f => .error (.createFailed rule.source f)
    | none =>
      match rule.creation with
      | .other => .error (.notMapping rule.source)
      | .mapping entries => registerAll categories rule entries)

/-- The callbacks of all rules, or the fault of the first rule that has one; later rules are then
not created. Creating rules may leave events in either case. -/
def registrationsOf (categories : CategoryTable) :
    List Rule → List Event × Except ConfigFault (List Registration)
  | [] => ([], .ok [])
  | r :: rs =>
    match register categories r with
    | (events, .error f) => (events, .error f)
    | (events, .ok first) =>
      let (more, rest) := registrationsOf categories rs
      (events ++ more, rest.map (first ++ ·))

/-- The table of the given rules. -/
def build (rules : List Rule) (categories : CategoryTable := .standard) :
    List Event × Except ConfigFault RuleTable :=
  let (events, registrations) := registrationsOf categories rules
  (events, registrations.map fun rs => ⟨categories, rules.map (·.name), rs⟩)

end RuleTable

end TemplateLint
