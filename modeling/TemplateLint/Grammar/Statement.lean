import TemplateLint.Grammar.Expression
import TemplateLint.Grammar.Extension

/-!
Statements and whole templates. Reading a template gives its tree, or the fault that stops it, and
in either case the marked regions that were closed before, in the order of their closing tags.
-/

namespace TemplateLint.Grammar

/-- What a region of a template is marked for. -/
inductive Purpose where
  /-- To be linted; regions are numbered by their opening tags. -/
  | lint (ordinal : Nat)
  | inspect
deriving DecidableEq, Repr

/-- A marked region of a template: the line of its opening tag, and what it holds. Its tokens are
those from `first` on, up to but not including `stop`. -/
structure Region where
  purpose : Purpose
  line : Nat
  body : List Node
  first : Nat
  stop : Nat
  /-- How many lint tags had been opened when it was closed. -/
  opened : Nat

/-- The region as a template of its own. -/
def Region.root (r : Region) : Node := nodeAt r.line .template [.nodes r.body]

/-- How far a template has been read. -/
structure Progress where
  stream : Stream
  /-- The regions closed so far. -/
  regions : List Region
  /-- How many lint tags have been opened. -/
  opened : Nat

/-- Reading of statements: what has been read stays when a fault is met. -/
abbrev Reading := ExceptT Fault (StateM Progress)

namespace Reading

open Phrasing

/-- Reads a phrase. -/
def phrase {α : Type} (p : Phrasing α) : Reading α := ExceptT.mk fun s =>
  match p.run s.stream with
  | .ok (a, stream) => (.ok a, { s with stream := stream })
  | .error f => (.error f, s)

instance : MonadLift Phrasing Reading := ⟨phrase⟩

def close (r : Nat → Region) : Reading Unit :=
  modifyThe Progress fun s => { s with regions := s.regions ++ [r s.opened] }

/-- Numbers an opening tag. -/
def numbered : Reading Nat :=
  modifyGetThe Progress fun s => (s.opened, { s with opened := s.opened + 1 })

/-- What a tag with a body holds, up to a tag that ends it. The name of that tag is left. -/
structure Body where
  nodes : List Node
  first : Nat
  stop : Nat

/-- Neighbouring pieces of output make one node, on the line of the first piece. -/
def output : List Node → List Node
  | [] => []
  | n :: ns => [.mk .output n.line [.nodes (n :: ns)]]

variable (self : Search → Reading (List Node × Nat)) (search : Search)

/-- The body of a tag. A colon may stand at the end of the tag. -/
def bodyUpTo (ends : List String) : Reading Body := do
  let _ ← skipIf (.op .colon)
  let opening ← expect .blockEnd
  let search := { search with ends := ends :: search.ends }
  let (nodes, stop) ← self search
  if (← shape) = .finish then failHere (.unfinished search)
  return ⟨nodes, opening.place + 1, stop⟩

/-- The body of a tag that only one tag ends, and that tag's name. -/
def body (tag : String) : Reading Body := do
  let b ← bodyUpTo self search [tag]
  skip
  return b

def tuple (part : Phrase := .expression) : Phrasing Node :=
  Expression.tupleOf Phrasing.phrase part

def expression : Phrasing Node := Phrasing.phrase .expression

def loop : Reading Node := do
  let tag ← next
  let target ← target false "store"
  let _ ← expect (.word "in")
  let items ← tuple .unconditional
  let test ← do
    if ← skipIf (.word "if") then some <$> expression else pure none
  let isRecursive ← skipIf (.word "recursive")
  let b ← bodyUpTo self search ["endfor", "else"]
  let ending ← next
  let other ← do
    if ending.shape.isWord ["endfor"] then pure [] else pure (← body self search "endfor").nodes
  return nodeAt tag.line .forLoop [.node target, .node items, .nodes b.nodes, .nodes other,
    .ofOption test, .bool isRecursive]

def branchNode (line : Nat) (test : Node) (body elifs other : List Node) : Node :=
  nodeAt line .branch [.node test, .nodes body, .nodes elifs, .nodes other]

/-- The branches from a condition on: its own, those with further conditions, and the last one.
A further condition counts as being on the line of its first terminal. -/
def branches : Nat → Reading (Node × List Node × List (Nat × Node × List Node) × List Node)
  | 0 => failHere .exhausted
  | rounds + 1 => do
    let test ← tuple .unconditional
    let b ← bodyUpTo self search ["elif", "else", "endif"]
    let ending ← next
    if ending.shape.isWord ["elif"] then
      let start ← line
      let (test', body', more, other) ← branches rounds
      return (test, b.nodes, (start, test', body') :: more, other)
    else if ending.shape.isWord ["else"] then
      return (test, b.nodes, [], (← body self search "endif").nodes)
    else return (test, b.nodes, [], [])

def branch : Reading Node := do
  let tag ← next
  let (test, body, more, other) ← branches self search (← getThe Progress).stream.bound
  let elifs := more.map fun (start, t, b) => branchNode start t b [] []
  return branchNode tag.line test body elifs other

def isBlankData (n : Node) : Bool :=
  n.kind == .templateData &&
    (n.text? "data").any fun s => !s.isEmpty && s.toList.all Text.isBlank

/-- Whether a node is nothing but blanks. -/
def isBlankOutput (n : Node) : Bool := n.kind == .output && n.children.all isBlankData

def block : Reading Node := do
  let tag ← next
  let (name, _) ← expectName
  let isScoped ← skipIf (.word "scoped")
  let isRequired ← skipIf (.word "required")
  if ← at? (.op .sub) then failHere .hyphenInName
  let b ← body self search "endblock"
  if isRequired && !b.nodes.all isBlankOutput then failHere .contentInRequired
  let _ ← skipIf (.word name)
  return nodeAt tag.line .block [.text name, .nodes b.nodes, .bool isScoped, .bool isRequired]

def extend : Reading Node := do
  let tag ← next
  return nodeAt tag.line .extend [.node (← expression)]

def print : Reading Node := do
  let tag ← next
  let es ← items .blockEnd false fun _ => expression
  return nodeAt tag.line .output [.nodes es]

/-- Parameters with their defaults, in parentheses. Those with defaults come last. -/
def signature : Phrasing (List Node × List Node) := do
  let _ ← expect (.op .lparen)
  let ps ← items (.op .rparen) false fun (before : List (Node × Option Node)) => do
    let (name, line) ← nameTarget
    let arg := nodeAt line .name [.text name, .text "param"]
    if ← skipIf (.op .assign) then return (arg, some (← expression))
    if before.any (·.2.isSome) then failHere .defaultOrder
    return (arg, none)
  let _ ← expect (.op .rparen)
  return (ps.map (·.1), ps.filterMap (·.2))

def macroDef : Reading Node := do
  let tag ← next
  let (name, _) ← nameTarget
  let (args, defaults) ← signature
  let b ← body self search "endmacro"
  return nodeAt tag.line .macroDef [.text name, .nodes args, .nodes defaults, .nodes b.nodes]

def callBlock : Reading Node := do
  let tag ← next
  let (args, defaults) ← do
    if ← at? (.op .lparen) then signature else pure ([], [])
  let call ← expression
  if call.kind != .call then fail .noCall tag.line
  let b ← body self search "endcall"
  return nodeAt tag.line .callBlock [.node call, .nodes args, .nodes defaults, .nodes b.nodes]

def filterBlock : Reading Node := do
  let tag ← next
  let first ← Expression.filter Phrasing.phrase none
  let filter ← Expression.piped Phrasing.phrase (some first)
  let b ← body self search "endfilter"
  return nodeAt tag.line .filterBlock [.nodes b.nodes, .ofOption filter]

/-- Whether a word says how an imported template sees the variables. -/
def opensContext : Shape → Bool
  | .name s | .string s => s == "with" || s == "without"
  | _ => false

/-- The words `with context` or `without context`, if they come next. -/
def context : Phrasing (Option Bool) := do
  let t ← current
  if opensContext t.shape then
    if (Wanted.word "context").fits (← look).shape then
      skip
      skip
      return some (match t.shape with
        | .name s | .string s => s == "with"
        | _ => false)
  return none

/-- The same, where a text cannot take the place of a word. -/
def contextAfterName (default : Bool) : Phrasing Bool := do
  if (← shape).isName then return (← context).getD default else return default

def inclusion : Reading Node := do
  let tag ← next
  let template ← expression
  let ignoreMissing ← ignores
  let withContext ← contextAfterName true
  return nodeAt tag.line .inclusion [.node template, .bool withContext, .bool ignoreMissing]
where
  ignores : Phrasing Bool := do
    if ← at? (.word "ignore") then
      if (Wanted.word "missing").fits (← look).shape then
        skip
        skip
        return true
    return false

def importModule : Reading Node := do
  let tag ← next
  let template ← expression
  let _ ← expect (.word "as")
  let (target, _) ← nameTarget
  let withContext ← contextAfterName false
  return nodeAt tag.line .importModule [.node template, .text target, .bool withContext]

/-- An imported name, with another name for it if one is given. -/
def importedName : Phrasing Field := do
  let (name, line) ← nameTarget
  if name.startsWith "_" then fail .hiddenName line
  if ← skipIf (.word "as") then
    let (newName, _) ← nameTarget
    return .value (.arr [.str name, .str newName])
  return .text name

/-- Imported names between commas, and what is said about the context behind them. -/
def importedNames : Phrasing (List Field × Option Bool) :=
  Phrasing.loop (fun (names : List Field) => do
    if !names.isEmpty then
      let _ ← expect (.op .comma)
    if !(← shape).isName then
      let _ ← expect .someName
    match ← context with
    | some c => return .inr (names, some c)
    | none =>
      let names := names ++ [← importedName]
      match ← context with
      | some c => return .inr (names, some c)
      | none => if ← at? (.op .comma) then return .inl names else return .inr (names, none)) []

def fromImport : Reading Node := do
  let tag ← next
  let template ← expression
  let _ ← expect (.word "import")
  let (names, withContext) ← importedNames
  return nodeAt tag.line .fromImport [.node template, .list names,
    .bool (withContext.getD false)]

/-- An assignment of a value, or of the body of the tag. -/
def assignment : Reading Node := do
  let tag ← next
  let target ← target true "store"
  if ← skipIf (.op .assign) then
    return nodeAt tag.line .assign [.node target, .node (← tuple)]
  else
    let filter ← Expression.piped Phrasing.phrase none
    let b ← body self search "endset"
    return nodeAt tag.line .assignBlock [.node target, .ofOption filter, .nodes b.nodes]

def withScope : Reading Node := do
  let tag ← next
  let ps ← items .blockEnd false fun _ => do
    let target ← target false "param"
    let _ ← expect (.op .assign)
    return (target, ← expression)
  let b ← body self search "endwith"
  return nodeAt tag.line .withScope [.nodes (ps.map (·.1)), .nodes (ps.map (·.2)), .nodes b.nodes]

def autoescape : Reading Node := do
  let tag ← next
  let option := Node.mk .keyword none [.text "autoescape", .node (← expression)]
  let b ← body self search "endautoescape"
  let modifier := nodeAt tag.line .scopedEvalContextModifier [.nodes [option], .nodes b.nodes]
  return .mk .scope none [.nodes [modifier]]

/-- A region that is linted stays in the template. -/
def lintRegion : Reading (List Node) := do
  let tag ← next
  let ordinal ← numbered
  let b ← body self search "endlint"
  close fun opened => ⟨.lint ordinal, tag.line, b.nodes, b.first, b.stop, opened⟩
  return b.nodes

def inspectRegion : Reading (List Node) := do
  let tag ← next
  let b ← body self search "endinspect"
  close fun opened => ⟨.inspect, tag.line, b.nodes, b.first, b.stop, opened⟩
  return []

def doStatement : Reading Node := do
  let tag ← next
  return nodeAt tag.line .exprStmt [.node (← tuple)]

def loopControl (tag : String) : Reading Node := do
  let t ← next
  return nodeAt t.line (if tag == "break" then .breakLoop else .continueLoop) []

/-- The `debug` tag calls back with the variables of the template. -/
def debug : Reading Node := do
  let tag ← next
  let callee := nodeAt tag.line .extensionAttribute
    [.text Extension.debugIdentifier, .text "_render"]
  let call := nodeAt tag.line .call [.node callee, .nodes [.mk .contextReference none []],
    .nodes [], .null, .null]
  return nodeAt tag.line .output [.nodes [call]]

/-- The statement of a tag that every template may use. -/
def standardStatement? (tag : String) : Option (Reading Node) :=
  match tag with
  | "for" => some (loop self search)
  | "if" => some (branch self search)
  | "block" => some (block self search)
  | "extends" => some extend
  | "print" => some print
  | "macro" => some (macroDef self search)
  | "include" => some inclusion
  | "from" => some fromImport
  | "import" => some importModule
  | "set" => some (assignment self search)
  | "with" => some (withScope self search)
  | "autoescape" => some (autoescape self search)
  | "call" => some (callBlock self search)
  | "filter" => some (filterBlock self search)
  | _ => none

/-- The nodes of a tag that an extension adds. -/
def extensionStatement (e : Extension) (tag : String) : Reading (List Node) :=
  match e with
  | .lint => lintRegion self search
  | .inspect => inspectRegion self search
  | .doStatement => List.singleton <$> doStatement
  | .loopControls => List.singleton <$> loopControl tag
  | .debug => List.singleton <$> debug

/-- The nodes of a statement, from the name of its tag up to the end of its last tag. -/
def statement (es : List Extension) : Reading (List Node) := do
  let t ← current
  match t.shape with
  | .name tag =>
    let inner := { search with openTag := some tag }
    match standardStatement? self inner tag with
    | some s => List.singleton <$> s
    | none =>
      match Extension.ofTag? es tag with
      | some e => extensionStatement self inner e tag
      | none => fail (.unknownTag tag search) t.line
  | _ => fail .noTagName t.line

/-- The nodes from here up to a tag that ends the innermost open one, or to the end, and the place
where that tag starts. `pieces` is the output since the last tag. Every round and every level takes
a terminal. -/
def nodes (es : List Extension) : Nat → List Node → Search → Reading (List Node × Nat)
  | 0, _, _ => failHere .exhausted
  | rounds + 1, pieces, search => do
    let t ← current
    match t.shape with
    | .data s =>
      skip
      let more := if s.isEmpty then [] else [nodeAt t.line .templateData [.text s]]
      nodes es rounds (pieces ++ more) search
    | .variableBegin =>
      skip
      let e ← tuple
      let _ ← expect .variableEnd
      nodes es rounds (pieces ++ [e]) search
    | .blockBegin =>
      skip
      if (← shape).isWord (search.ends.headD []) then return (output pieces, t.place)
      let ns ← statement (nodes es rounds []) search es
      let _ ← expect .blockEnd
      let (rest, stop) ← nodes es rounds [] search
      return (output pieces ++ ns ++ rest, stop)
    | .finish => return (output pieces, t.place)
    | _ => fail .stray t.line

def template (es : List Extension) : Reading Node := do
  let (ns, _) ← nodes es (← getThe Progress).stream.bound [] ⟨none, []⟩
  return nodeAt 1 .template [.nodes ns]

end Reading

/-- What reading a template leads to. -/
structure Outcome where
  /-- The regions that were closed, in the order of their closing tags. -/
  regions : List Region
  /-- How many lint tags have been opened. -/
  opened : Nat
  tree : Except Fault Node

/-- Reads a template from its first terminal on; the first lint tag gets the number `opened`. -/
def readFrom (es : List Extension) (st : Stream) (opened : Nat := 0) : Outcome :=
  let (tree, s) := (Reading.template es).run ⟨st, [], opened⟩
  ⟨s.regions, s.opened, tree⟩

/-- Reads a template. -/
def read (d : Dialect) (es : List Extension) (source : String) : Outcome :=
  match Stream.start d source with
  | .ok st => readFrom es st
  | .error f => ⟨[], 0, .error f⟩

end TemplateLint.Grammar
