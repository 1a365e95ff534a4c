import TemplateLint.Grammar.Fault

/-!
The stream that the parser reads: the current terminal, those ahead of it, and the fault that the
reader meets behind the last one. A fault shows only when the parser gets there.
-/

namespace TemplateLint.Grammar

structure Stream where
  current : Terminal
  ahead : List Terminal
  fault : Option Fault
  /-- A bound on the number of terminals. -/
  bound : Nat
deriving Repr

namespace Stream

/-- The terminals of a text in lexemes up to the first fault, `place` tokens into the template. -/
def terminals (lineBreak : List Char) :
    Nat → List (Nat × Lexeme) → List Terminal × Option Fault
  | _, [] => ([], none)
  | place, (line, l) :: ls =>
    let after := if l.kind = .stripped then place else place + 1
    match Shape.ofLexeme lineBreak l with
    | .error m => ([], some ⟨.misread m, line⟩)
    | .ok none => terminals lineBreak after ls
    | .ok (some s) =>
      let (ts, f) := terminals lineBreak after ls
      (⟨line, s, place⟩ :: ts, f)

/-- What stands behind the last terminal. -/
def finishAfter (t : Terminal) : Terminal := ⟨t.line, .finish, t.place + 1⟩

/-- Moves on by one terminal. Behind the last one comes the fault, or the end. -/
def advance (st : Stream) : Except Fault Stream :=
  match st.ahead with
  | t :: ts => .ok { st with current := t, ahead := ts }
  | [] =>
    match st.fault with
    | some f => .error f
    | none => .ok { st with current := finishAfter st.current }

/-- The terminal after the current one. -/
def peek (st : Stream) : Except Fault Terminal :=
  match st.ahead with
  | t :: _ => .ok t
  | [] =>
    match st.fault with
    | some f => .error f
    | none => .ok (finishAfter st.current)

/-- The stream of a template, at its first terminal. -/
def start (d : Dialect) (source : String) : Except Fault Stream :=
  let lexing := Lexer.lex d source
  let (ts, misread) := terminals d.lineBreak.toList 0 lexing.lexemes
  let fault := misread <|> lexing.fault.map fun f => ⟨.lexical f.flaw, f.line⟩
  advance ⟨⟨1, .finish, 0⟩, ts, fault, ts.length + 2⟩

end Stream

/-- Parsing of a phrase: it reads from the stream, or meets a fault. -/
abbrev Phrasing := StateT Stream (Except Fault)

namespace Phrasing

def current : Phrasing Terminal := do return (← get).current

def shape : Phrasing Shape := do return (← get).current.shape

def line : Phrasing Nat := do return (← get).current.line

def fail {α : Type} (cause : Cause) (line : Nat) : Phrasing α := throw ⟨cause, line⟩

def failHere {α : Type} (cause : Cause) : Phrasing α := do fail cause (← line)

/-- Takes the current terminal. -/
def next : Phrasing Terminal := do
  let st ← get
  set (← st.advance)
  return st.current

def skip : Phrasing Unit := do
  let _ ← next

/-- The terminal after the current one. -/
def look : Phrasing Terminal := do (← get).peek

def at? (w : Wanted) : Phrasing Bool := do return w.fits (← shape)

/-- Takes the current terminal if it is the wanted one. -/
def skipIf (w : Wanted) : Phrasing Bool := do
  if ← at? w then
    skip
    return true
  else return false

/-- Takes the current terminal, which has to be the wanted one. -/
def expect (w : Wanted) : Phrasing Terminal := do
  let t ← current
  if w.fits t.shape then next else fail (.expected w t.shape) t.line

/-- Takes a name. -/
def expectName : Phrasing (String × Nat) := do
  let t ← current
  match t.shape with
  | .name s =>
    skip
    return (s, t.line)
  | s => fail (.expected .someName s) t.line

/-- Goes from state to state until there is a result, for at most `rounds` rounds. -/
def loopFor {σ β : Type} (step : σ → Phrasing (σ ⊕ β)) : Nat → σ → Phrasing β
  | 0, _ => failHere .exhausted
  | rounds + 1, s => do
    match ← step s with
    | .inl s => loopFor step rounds s
    | .inr b => return b

/-- Goes from state to state until there is a result. Every round but the last one takes a
terminal, so the number of terminals bounds the rounds. -/
def loop {σ β : Type} (step : σ → Phrasing (σ ⊕ β)) (s : σ) : Phrasing β := do
  loopFor step (← get).bound s

/-- Items between commas up to `close`, which is left; each is read after those before it. A comma
may stand before `close` if `trailing` says so. -/
def items {α : Type} (close : Wanted) (trailing : Bool) (item : List α → Phrasing α) :
    Phrasing (List α) :=
  loop (fun xs => do
    if ← at? close then return .inr xs
    if !xs.isEmpty then
      let _ ← expect (.op .comma)
      if trailing then
        if ← at? close then return .inr xs
    return .inl (xs ++ [← item xs])) []

end Phrasing

end TemplateLint.Grammar
