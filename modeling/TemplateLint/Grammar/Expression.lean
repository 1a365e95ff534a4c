import TemplateLint.Grammar.Stream
import TemplateLint.Node.Basic

/-!
Expressions. A rule reads the parts that are expressions again through `self`, so no rule is
recursive; `Expression.read` ties the knot. Every part starts behind the first terminal of the
whole, so the number of terminals bounds the depth.
-/

namespace TemplateLint.Grammar

/-- The expressions that a rule may ask for as a part. -/
inductive Phrase where
  /-- Any expression. -/
  | expression
  /-- An expression without a condition behind it. -/
  | unconditional
  /-- What can stand behind `not`. -/
  | negation
  /-- What can stand behind a sign. -/
  | signed
deriving DecidableEq, Repr

def nodeAt (line : Nat) (kind : Kind) (fields : List Field) : Node := .mk kind (some line) fields

namespace Expression

open Phrasing

/-- The words that stand for constants. -/
def constants : List (String × Json) := [("true", .bool true), ("false", .bool false),
  ("True", .bool true), ("False", .bool false), ("none", .null), ("None", .null)]

def constant? (s : String) : Option Json := (constants.find? (·.1 == s)).map (·.2)

/-- The arguments of a call, a filter or a test. -/
structure Arguments where
  args : List Node := []
  kwargs : List Node := []
  dynArgs : Option Node := none
  dynKwargs : Option Node := none

namespace Arguments

def isEmpty (a : Arguments) : Bool :=
  a.args.isEmpty && a.kwargs.isEmpty && a.dynArgs.isNone && a.dynKwargs.isNone

def fields (a : Arguments) : List Field :=
  [.nodes a.args, .nodes a.kwargs, .ofOption a.dynArgs, .ofOption a.dynKwargs]

end Arguments

/-- A name, or several names with points between them, and the line of the first one. -/
def dottedName : Phrasing (String × Nat) := do
  let (first, line) ← expectName
  loop (fun name => do
    if ← skipIf (.op .dot) then
      let (more, _) ← expectName
      return .inl (name ++ "." ++ more)
    else return .inr (name, line)) first

/-- Operands of one rank with operators between them, grouped from the left. The first node is on
the line on which the operands start, each further one on the line of the terminal behind the node
before it. -/
def chain (operand : Phrasing Node) (joint : Shape → Option Kind) : Phrasing Node := do
  let start ← line
  let first ← operand
  loop (fun (left, start) => do
    match joint (← shape) with
    | some kind =>
      skip
      let right ← operand
      return .inl (nodeAt start kind [.node left, .node right], ← line)
    | none => return .inr left) (first, start)

variable (self : Phrase → Phrasing Node)

/-- Whether a list of items without brackets is over. -/
def endsTuple : Shape → Bool
  | .variableEnd | .blockEnd | .op .rparen => true
  | _ => false

/-- One item, or a tuple if a comma follows. A tuple is on the line of its last comma. In
parentheses it may be empty. -/
def tuple (item : Phrasing Node) (parenthesised : Bool) : Phrasing Node := do
  let (items, many, line) ← loop (fun (items, many, start) => do
    if !items.isEmpty then
      let _ ← expect (.op .comma)
    if endsTuple (← shape) then return .inr (items, many, start)
    let items := items ++ [← item]
    if ← at? (.op .comma) then return .inl (items, true, ← line)
    else return .inr (items, many, start)) ([], false, ← line)
  match items with
  | [e] => if many then return nodeAt line .tuple [.nodes [e], .text "load"] else return e
  | [] =>
    if parenthesised then return nodeAt line .tuple [.nodes [], .text "load"]
    else failHere (.noExpression (← shape))
  | _ => return nodeAt line .tuple [.nodes items, .text "load"]

/-- A tuple or a single expression, without parentheses. -/
def tupleOf (part : Phrase) : Phrasing Node := tuple (self part) false

def list : Phrasing Node := do
  let opening ← expect (.op .lbracket)
  let es ← items (.op .rbracket) true fun _ => self .expression
  let _ ← expect (.op .rbracket)
  return nodeAt opening.line .list [.nodes es]

def pair : Phrasing Node := do
  let key ← self .expression
  let _ ← expect (.op .colon)
  let value ← self .expression
  return .mk .pair key.line [.node key, .node value]

def dict : Phrasing Node := do
  let opening ← expect (.op .lbrace)
  let ps ← items (.op .rbrace) true fun _ => pair self
  let _ ← expect (.op .rbrace)
  return nodeAt opening.line .dict [.nodes ps]

/-- Texts that follow one another are one text. -/
def strings (first : String) : Phrasing String :=
  loop (fun s => do
    match ← shape with
    | .string t =>
      skip
      return .inl (s ++ t)
    | _ => return .inr s) first

/-- A name or a value. Where `attributes` are allowed, a name with a point and a name is one too. -/
def primary (attributes : Bool) : Phrasing Node := do
  let t ← current
  match t.shape with
  | .name s =>
    skip
    match constant? s with
    | some v => return nodeAt t.line .const [.value v]
    | none =>
      if attributes then
        if ← skipIf (.op .dot) then
          let (attr, _) ← expectName
          return nodeAt t.line .nsRef [.text s, .text attr]
      return nodeAt t.line .name [.text s, .text "load"]
  | .string s =>
    skip
    return nodeAt t.line .const [.text (← strings s)]
  | .integer n =>
    skip
    return nodeAt t.line .const [.value (.int n)]
  | .float s =>
    skip
    return nodeAt t.line .const [.float s]
  | .op .lparen =>
    skip
    let e ← tuple (self .expression) true
    let _ ← expect (.op .rparen)
    return e
  | .op .lbracket => list self
  | .op .lbrace => dict self
  | s => fail (.unexpected s) t.line

/-- A part of a slice, which may be missing. -/
def bound : Phrasing (Option Node) := do
  match ← shape with
  | .op .colon | .op .rbracket | .op .comma => return none
  | _ => return some (← self .expression)

/-- What stands between brackets behind an expression: an expression or a slice. -/
def subscribed : Phrasing Node := do
  let start ← line
  let first ← if ← at? (.op .colon) then pure none else some <$> self .expression
  match first, ← skipIf (.op .colon) with
  | some e, false => return e
  | _, _ =>
    let stop ← bound self
    let step ← if ← skipIf (.op .colon) then boundAtEnd else pure none
    return nodeAt start .slice [.ofOption first, .ofOption stop, .ofOption step]
where
  /-- The last part of a slice: a colon does not end it. -/
  boundAtEnd : Phrasing (Option Node) := do
    match ← shape with
    | .op .rbracket | .op .comma => return none
    | _ => return some (← self .expression)

/-- An attribute or an item of an expression. -/
def subscript (e : Node) : Phrasing Node := do
  let opening ← next
  match opening.shape with
  | .op .dot =>
    let t ← next
    match t.shape with
    | .name s => return nodeAt opening.line .getattr [.node e, .text s, .text "load"]
    | .integer n =>
      let arg := nodeAt t.line .const [.value (.int n)]
      return nodeAt opening.line .getitem [.node e, .node arg, .text "load"]
    | _ => fail .badSubscript t.line
  | _ =>
    let args ← items (.op .rbracket) false fun _ => subscribed self
    let _ ← expect (.op .rbracket)
    let arg := match args with
      | [a] => a
      | _ => nodeAt opening.line .tuple [.nodes args, .text "load"]
    return nodeAt opening.line .getitem [.node e, .node arg, .text "load"]

/-- One more argument. Plain ones come first, then named ones, and those that are spread last. -/
def argument (start : Nat) (a : Arguments) : Phrasing Arguments := do
  let ensure (ok : Bool) : Phrasing Unit := if ok then pure () else fail .badCall start
  match ← shape with
  | .op .mul =>
    ensure (a.dynArgs.isNone && a.dynKwargs.isNone)
    skip
    return { a with dynArgs := some (← self .expression) }
  | .op .pow =>
    ensure a.dynKwargs.isNone
    skip
    return { a with dynKwargs := some (← self .expression) }
  | s =>
    match s, ← keywordAhead s with
    | .name key, true =>
      ensure a.dynKwargs.isNone
      skip
      skip
      let value ← self .expression
      return { a with kwargs := a.kwargs ++ [.mk .keyword value.line [.text key, .node value]] }
    | _, _ =>
      ensure (a.dynArgs.isNone && a.dynKwargs.isNone && a.kwargs.isEmpty)
      return { a with args := a.args ++ [← self .expression] }
where
  keywordAhead (s : Shape) : Phrasing Bool := do
    if s.isName then return (Wanted.op .assign).fits (← look).shape else return false

/-- Arguments in parentheses. -/
def arguments : Phrasing Arguments := do
  let opening ← expect (.op .lparen)
  let a ← loop (fun a => do
    if ← at? (.op .rparen) then return .inr a
    if !a.isEmpty then
      let _ ← expect (.op .comma)
      if ← at? (.op .rparen) then return .inr a
    return .inl (← argument self opening.line a)) ({} : Arguments)
  let _ ← expect (.op .rparen)
  return a

def argumentsIf : Phrasing Arguments := do
  if ← at? (.op .lparen) then arguments self else return {}

def call (e : Node) : Phrasing Node := do
  let start ← line
  let a ← arguments self
  return nodeAt start .call (.node e :: a.fields)

/-- An expression with the attributes, items and calls behind it. -/
def withSuffixes (e : Node) : Phrasing Node :=
  loop (fun e => do
    match ← shape with
    | .op .dot | .op .lbracket => return .inl (← subscript self e)
    | .op .lparen => return .inl (← call self e)
    | _ => return .inr e) e

/-- A filter: its name and its arguments. -/
def filter (e : Option Node) : Phrasing Node := do
  let (name, start) ← dottedName
  let a ← argumentsIf self
  return nodeAt start .filter (.ofOption e :: .text name :: a.fields)

/-- The filters behind an expression, each after a bar. -/
def piped (e : Option Node) : Phrasing (Option Node) :=
  loop (fun e => do
    if ← skipIf (.op .pipe) then return .inl (some (← filter self e)) else return .inr e) e

/-- Whether a test can have an argument without parentheses that starts so. -/
def startsArgument : Shape → Bool
  | .name s => s != "else" && s != "or" && s != "and"
  | .string _ | .integer _ | .float _ => true
  | .op .lbracket | .op .lbrace => true
  | _ => false

def test (e : Node) : Phrasing Node := do
  let start ← line
  skip
  let negated ← skipIf (.word "not")
  let (name, _) ← dottedName
  let a ← do
    if ← at? (.op .lparen) then arguments self
    else if startsArgument (← shape) then
      if ← at? (.word "is") then failHere .chainedTests
      let arg ← withSuffixes self (← primary self false)
      pure { args := [arg] }
    else pure {}
  let tested := nodeAt start .test (.node e :: .text name :: a.fields)
  return if negated then nodeAt start .not [.node tested] else tested

/-- An expression with the filters, tests and calls behind it. -/
def withFilters (e : Node) : Phrasing Node :=
  loop (fun e => do
    match ← shape with
    | .op .pipe =>
      skip
      return .inl (← filter self (some e))
    | .name "is" => return .inl (← test self e)
    | .op .lparen => return .inl (← call self e)
    | _ => return .inr e) e

/-- A primary expression with signs before it and suffixes behind it. Filters apply to the whole,
so what stands behind a sign has none. -/
def unary (filters : Bool) : Phrasing Node := do
  let t ← current
  let e ← match t.shape with
    | .op .sub => do
      skip
      pure (nodeAt t.line .neg [.node (← self .signed)])
    | .op .add => do
      skip
      pure (nodeAt t.line .pos [.node (← self .signed)])
    | _ => primary self false
  let e ← withSuffixes self e
  if filters then withFilters self e else return e

def power : Phrasing Node := chain (unary self true) fun
  | .op .pow => some .pow
  | _ => none

def product : Phrasing Node := chain (power self) fun
  | .op .mul => some .mul
  | .op .div => some .div
  | .op .floorDiv => some .floorDiv
  | .op .mod => some .mod
  | _ => none

/-- Products with `~` between them are one node. -/
def concat : Phrasing Node := do
  let start ← line
  let first ← product self
  let rest ← loop (fun es => do
    if ← skipIf (.op .tilde) then return .inl (es ++ [← product self])
    else return .inr es) []
  match rest with
  | [] => return first
  | _ => return nodeAt start .concat [.nodes (first :: rest)]

def sum : Phrasing Node := chain (concat self) fun
  | .op .add => some .add
  | .op .sub => some .sub
  | _ => none

/-- The name of an operator that compares. -/
def comparison? : Shape → Option String
  | .op .eq => some "eq"
  | .op .ne => some "ne"
  | .op .lt => some "lt"
  | .op .lteq => some "lteq"
  | .op .gt => some "gt"
  | .op .gteq => some "gteq"
  | .name "in" => some "in"
  | _ => none

/-- Takes an operator that compares, if there is one. -/
def comparator : Phrasing (Option String) := do
  let s ← shape
  match comparison? s with
  | some name =>
    skip
    return some name
  | none =>
    if s.isWord ["not"] then
      if (← look).shape.isWord ["in"] then
        skip
        skip
        return some "notin"
    return none

/-- All comparisons in a row are one node, on the line of the terminal behind them. -/
def compare : Phrasing Node := do
  let first ← sum self
  let ops ← loop (fun ops => do
    match ← comparator with
    | some name =>
      let e ← sum self
      return .inl (ops ++ [.mk .operand none [.text name, .node e]])
    | none => return .inr ops) []
  match ops with
  | [] => return first
  | _ => return nodeAt (← line) .compare [.node first, .nodes ops]

def negation : Phrasing Node := do
  let start ← line
  if ← skipIf (.word "not") then return nodeAt start .not [.node (← self .negation)]
  else compare self

def conjunction : Phrasing Node := chain (negation self) fun
  | .name "and" => some .and
  | _ => none

def disjunction : Phrasing Node := chain (conjunction self) fun
  | .name "or" => some .or
  | _ => none

/-- An expression with conditions behind it. -/
def conditional : Phrasing Node := do
  let start ← line
  let first ← disjunction self
  loop (fun (e, start) => do
    if ← skipIf (.word "if") then
      let condition ← disjunction self
      let other ← do
        if ← skipIf (.word "else") then some <$> self .expression else pure none
      return .inl (nodeAt start .condExpr [.node condition, .node e, .ofOption other], ← line)
    else return .inr e) (first, start)

/-- The rule for each phrase. -/
def rule : Phrase → Phrasing Node
  | .expression => conditional self
  | .unconditional => disjunction self
  | .negation => negation self
  | .signed => unary self false

/-- Reads a phrase that is at most `depth` deep. -/
def read : Nat → Phrase → Phrasing Node
  | 0, _ => failHere .exhausted
  | depth + 1, p => rule (read depth) p

end Expression

/-- The words that no value can be assigned to. -/
def reservedWords : List String := Expression.constants.map (·.1)

mutual

/-- Whether a value can be assigned to an expression: to a name, to an attribute, to a tuple of
these. -/
def assignable : Node → Bool
  | .mk k _ fs =>
    match k with
    | .name => !fs.any fun
      | .value (.str s) => reservedWords.contains s
      | _ => false
    | .nsRef => true
    | .tuple => assignableFields fs
    | _ => false

def assignableField : Field → Bool
  | .node n => assignable n
  | .list items => assignableFields items
  | .value _ => true
  | .float _ => true

def assignableFields : List Field → Bool
  | [] => true
  | f :: fs => assignableField f && assignableFields fs

end

namespace Phrasing

/-- Reads a phrase. -/
def phrase (p : Phrase) : Phrasing Node := do Expression.read (← get).bound p

/-- A name that a value is assigned to. -/
def nameTarget : Phrasing (String × Nat) := do
  let (name, line) ← expectName
  if reservedWords.contains name then fail (.notAssignable .name) line
  return (name, line)

/-- What a value is assigned to. -/
def target (attributes : Bool) (role : String) : Phrasing Node := do
  let e ← Expression.tuple (Expression.primary phrase attributes) false
  if assignable e then return e.withRole role
  else fail (.notAssignable e.kind) ((e.line.map Int.toNat).getD 0)

end Phrasing

end TemplateLint.Grammar
