import TemplateLint.Text.Blank
import TemplateLint.Text.Split

/-!
Line breaks: making them uniform, cutting a text after each of them, joining lines into one.

Main statement: the pieces of a text, joined, are the text (`flatten_pieces`).
-/

namespace TemplateLint.Text

/-- Every line break, written `\r\n`, `\r` or `\n`, becomes one `\n`. -/
def unifyBreaks : List Char → List Char
  | '\r' :: '\n' :: cs => '\n' :: unifyBreaks cs
  | '\r' :: cs => '\n' :: unifyBreaks cs
  | c :: cs => c :: unifyBreaks cs
  | [] => []

/-- The text without its last line break, if it ends in one. -/
def dropLastBreak : List Char → List Char
  | [] => []
  | ['\n'] => []
  | c :: cs => c :: dropLastBreak cs

/-- Every line break becomes the given text. -/
def respellBreaks (brk : List Char) (cs : List Char) : List Char :=
  (unifyBreaks cs).flatMap fun c => if c == '\n' then brk else [c]

def countBreaks (cs : List Char) : Nat := cs.count '\n'

/-- The lines of a text, each with the line break that ends it; no piece is empty. -/
def pieces : List Char → List (List Char)
  | [] => []
  | c :: cs =>
    if c = '\n' then [c] :: pieces cs
    else match pieces cs with
      | [] => [[c]]
      | p :: ps => (c :: p) :: ps

/-- The lines of a text without their line breaks; a text of `n` line breaks has `n + 1`. -/
def lines (cs : List Char) : List (List Char) := split '\n' cs

/-- Every line break, written in any of the three ways, becomes one space. -/
def collapse : List Char → List Char
  | '\r' :: '\n' :: cs => ' ' :: collapse cs
  | c :: cs => (if c = '\n' ∨ c = '\r' then ' ' else c) :: collapse cs
  | [] => []

def collapsed (s : String) : String := String.ofList (collapse s.toList)

@[simp] theorem pieces_nil : pieces [] = [] := rfl

@[simp] theorem flatten_pieces (cs : List Char) : (pieces cs).flatten = cs := by
  induction cs with
  | nil => rfl
  | cons c cs ih =>
    unfold pieces
    split
    · simp [ih]
    · split
      · next h => rw [h] at ih; simp_all
      · next p ps h => rw [h] at ih; simp_all

theorem pieces_ne_nil (cs : List Char) : ∀ p ∈ pieces cs, p ≠ [] := by
  induction cs with
  | nil => simp
  | cons c cs ih =>
    unfold pieces
    split
    · intro p hp
      rcases List.mem_cons.1 hp with rfl | hp
      · simp
      · exact ih p hp
    · split
      · simp
      · next q qs h =>
        intro p hp
        rcases List.mem_cons.1 hp with rfl | hp
        · simp
        · exact ih p (by rw [h]; simp [hp])

end TemplateLint.Text
