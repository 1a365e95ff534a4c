import TemplateLint.Rule.Table

/-!
The walk through a tree: every node is entered before its children and left after them, and the
callbacks for its categories are called each time. A callback that fails ends the walk, and so does
a node that is too far down. How many levels can be gone down depends on the stack that is left when
the walk begins, so the number of levels is given with each walk.
-/

namespace TemplateLint

/-- The kinds of which all walked fields have to be set. -/
def Kind.isStrict : Kind → Bool
  | .branch | .condExpr | .call | .pair | .macroDef => true
  | _ => false

/-- The field of a kind that is not walked: what is called, the key of a pair, the name of a
macro. -/
def Kind.skipped? : Kind → Option String
  | .call => some "node"
  | .pair => some "key"
  | .macroDef => some "name"
  | _ => none

/-- The children of a node that are walked, in order and with their links, or nothing if fields
that should be walked are unset. -/
def Node.steps? (n : Node) : Option (List (Link × Node)) :=
  if n.kind.isStrict && n.fields.isEmpty then none
  else
    let fields := n.namedFields.filter fun f => some f.1 != n.kind.skipped?
    some (fields.flatMap (linksIn n.kind))

/-- The children of a node that are walked, in order. -/
def Node.walked? (n : Node) : Option (List Node) := n.steps?.map fun cs => cs.map (·.2)

namespace Walk

/-- What comes next in a walk. -/
inductive Moment where
  | visit (v : Visit) (phase : Phase)
  /-- There is a node further down than the walk can go. -/
  | tooDeep
  /-- A node of the given kind has fields unset that should be walked. -/
  | unset (kind : Kind)

/-- The moments of a walk through a tree, as far as the given number of levels goes. -/
def moments : Nat → Visit → List Moment
  | 0, _ => [.tooDeep]
  | levels + 1, v =>
    .visit v .enter ::
      match v.node.steps? with
      | none => [.unset v.node.kind]
      | some cs => (cs.flatMap fun c => moments levels (v.child c)) ++ [.visit v .exit]

/-- A callback that failed. -/
structure CallbackFault where
  rule : String
  category : String
  phase : Phase
  line : Option Int
  cause : Failure
deriving DecidableEq, Repr

def CallbackFault.message (f : CallbackFault) : String :=
  let place := match f.line with
    | some n => s!"line {n}"
    | none => "unknown line"
  s!"Rule '{f.rule}' failed on {f.category} ({f.phase.text}) at {place}"

/-- What ends a walk before its end. -/
inductive Fault where
  | callback (f : CallbackFault)
  | tooDeep (visited : Nat)
  | unset (kind : Kind)
deriving DecidableEq, Repr

def Fault.message : Fault → String
  | .callback f => f.message
  | .tooDeep visited => s!"Template tree is nested too deeply to lint (visited {visited} nodes)"
  | .unset kind => s!"'{kind.label}' object has unset fields"

/-- Calls callbacks for a visit up to the first one that fails. -/
def callAll (v : Visit) : List Registration → Run → Run × Option CallbackFault
  | [], run => (run, none)
  | r :: rs, run =>
    match run.performAll r.rule r.key (r.callback run.session.view? v) with
    | (run, none) => callAll v rs run
    | (run, some f) => (run, some ⟨r.rule, r.category, r.phase, v.node.line, f⟩)

/-- How a walk went: how many nodes were entered, and what ended it early. -/
structure Result where
  run : Run
  visited : Nat
  fault : Option Fault

/-- Goes through moments, `visited` nodes having been entered before. -/
def follow (t : RuleTable) : List Moment → Nat → Run → Result
  | [], visited, run => ⟨run, visited, none⟩
  | .tooDeep :: _, visited, run => ⟨run, visited, some (.tooDeep visited)⟩
  | .unset kind :: _, visited, run => ⟨run, visited, some (.unset kind)⟩
  | .visit v phase :: ms, visited, run =>
    let visited := match phase with
      | .enter => visited + 1
      | .exit => visited
    match callAll v (t.callbacksOf v.node.kind phase) run with
    | (run, none) => follow t ms visited run
    | (run, some f) => ⟨run, visited, some (.callback f)⟩

/-- Walks through a tree, as far as the given number of levels goes; what is recorded goes to the
innermost open document. -/
def walk (t : RuleTable) (levels : Nat) (root : Node) (run : Run) : Result :=
  let r := follow t (moments levels ⟨root, []⟩) 0 run
  match r.fault with
  | some _ => r
  | none => { r with run := r.run.tell [⟨.debug, .walker, s!"Walked {r.visited} node(s)"⟩] }

end Walk

end TemplateLint
