/-!
What a run tells while it works: records of a level, the part of the program that tells, and a text.
-/

namespace TemplateLint

inductive Level where
  | debug | info | warning | error | critical
deriving DecidableEq, Repr

def Level.rank : Level → Nat
  | .debug => 10
  | .info => 20
  | .warning => 30
  | .error => 40
  | .critical => 50

def Level.label : Level → String
  | .debug => "DEBUG"
  | .info => "INFO"
  | .warning => "WARNING"
  | .error => "ERROR"
  | .critical => "CRITICAL"

def Level.all : List Level := [debug, info, warning, error, critical]

def Level.ofLabel? (label : String) : Option Level := all.find? (·.label == label)

/-- The parts of the program that tell something. -/
inductive Teller where
  | context | walker | lint | reporter | sourceIndex | discovery | registry | ruleFactory
  | pipeline | extension
deriving DecidableEq, Repr

def Teller.label : Teller → String
  | .context => "templint.pipeline.context"
  | .walker => "templint.pipeline.walker"
  | .lint => "templint.pipeline.lint"
  | .reporter => "templint.pipeline.reporter"
  | .sourceIndex => "templint.pipeline.source_index"
  | .discovery => "templint.pipeline.parse"
  | .registry => "templint.pipeline.rules.registry"
  | .ruleFactory => "templint.pipeline.rules_factory"
  | .pipeline => "templint.pipeline.pipeline"
  | .extension => "templint.extension"

structure Record where
  level : Level
  teller : Teller
  message : String
deriving DecidableEq, Repr

abbrev Log := List Record

/-- The records of a level or above. -/
def Log.atLeast (l : Log) (level : Level) : Log := l.filter fun r => level.rank ≤ r.level.rank

end TemplateLint
