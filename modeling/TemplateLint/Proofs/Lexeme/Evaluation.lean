import Mathlib.Tactic.Common
import TemplateLint.Grammar.Stream

/-!
Lexing that the kernel can evaluate.

The marks of a dialect are put in order by a sort that recurses on a measure, and such a recursion
is not unfolded when a proof is checked. With the marks given in their order, a text is lexed by
structural recursion alone. Main statement: `lex_default`.
-/

namespace TemplateLint

/-! ### Outcomes -/

section

variable {ε α : Type} {x : Except ε α}

lemma exists_eq_ok (h : x.isOk) : ∃ a, x = .ok a := by
  cases x with
  | error e => cases h
  | ok a => exact ⟨a, rfl⟩

lemma exists_eq_error (h : x.isOk = false) : ∃ e, x = .error e := by
  cases x with
  | error e => exact ⟨e, rfl⟩
  | ok a => cases h

end

/-! ### Lexing -/

namespace Lexer

section

variable (d : Dialect) (marks : List (Lexeme.Kind × String))

/-- The first of the given marks that a text starts with. -/
def markAmong (prev : Option Char) (cs : List Char) : Option Mark :=
  match rawTag d cs with
  | some m => some m
  | none => marks.findSome? (markOf prev cs)

/-- A step that looks for the given marks. -/
def stepAmong (st : State) (cs : List Char) (position : Nat) : Outcome :=
  match st.mode with
  | .root =>
    match Scan.findFirst (markAmong d marks) st.prev cs with
    | some (text, m) => .step (beforeAndMark d st text m) (modeOf m.kind) st.brackets m.rest
    | none => if cs.isEmpty then .done else .step [⟨.data, cs⟩] .root st.brackets []
  | _ => step d st cs position

def runAmong : Nat → State → Nat → List Char → List Lexeme × Option Flaw
  | 0, _, _, _ => ([], some .stuck)
  | rounds + 1, st, position, cs =>
    match stepAmong d marks st cs position with
    | .done => ([], none)
    | .flaw f => ([], some f)
    | .step ls mode brackets rest =>
      let text := Lexeme.textOf ls
      let (more, f) := runAmong rounds (st.after mode brackets text) (position + text.length) rest
      (ls ++ more, f)

def lexAmong (source : String) : Lexing :=
  let cs := normalise d source
  let (ls, flaw) := runAmong d marks (2 * cs.length + 2) .start 0 cs
  ⟨Lexeme.place 1 ls, flaw.map fun f => ⟨f, 1 + Text.countBreaks (Lexeme.textOf ls)⟩⟩

end

variable (d : Dialect)

lemma step_eq_among (st : State) (cs : List Char) (position : Nat) :
    step d st cs position = stepAmong d (marks d) st cs position := by
  have hmark : markAmong d (marks d) = markAt d := rfl
  unfold stepAmong
  rw [hmark]
  cases hmode : st.mode with
  | root =>
    simp only [step, hmode, rootStep]
    cases Scan.findFirst (markAt d) st.prev cs with
    | some found => rfl
    | none => cases cs <;> rfl
  | _ => rfl

lemma run_eq_among (rounds : Nat) (st : State) (position : Nat) (cs : List Char) :
    run d rounds st position cs = runAmong d (marks d) rounds st position cs := by
  induction rounds generalizing st position cs with
  | zero => rfl
  | succ rounds ih =>
    rw [run, runAmong, step_eq_among]
    cases stepAmong d (marks d) st cs position with
    | done => rfl
    | flaw f => rfl
    | step ls mode brackets rest => simp only [ih]

lemma lex_eq_among (source : String) : lex d source = lexAmong d (marks d) source := by
  rw [lex, lexChars, run_eq_among]
  rfl

/-! ### The default dialect -/

/-- The marks of the default dialect in their order. -/
def defaultMarks : List (Lexeme.Kind × String) :=
  [(.variableBegin, "\x7b\x7b"), (.commentBegin, "\x7b#"), (.blockBegin, "\x7b%")]

/-- All of them have two characters, so sorting leaves them as they are. -/
lemma marks_default : marks {} = defaultMarks := by
  have hsorted : defaultMarks.Pairwise fun a b => decide (b.2.length ≤ a.2.length) = true := by
    decide +kernel
  exact List.mergeSort_of_pairwise hsorted

theorem lex_default (source : String) : lex {} source = lexAmong {} defaultMarks source := by
  rw [lex_eq_among, marks_default]

end Lexer

deriving instance DecidableEq for Grammar.Stream

end TemplateLint
