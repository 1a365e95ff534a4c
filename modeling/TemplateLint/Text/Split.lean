/-!
Cutting a text at every occurrence of a character.

Main statement: the parts, joined by the character, are the text (`join_split`).
-/

namespace TemplateLint.Text

/-- The parts of a text between the occurrences of a character; `n` occurrences make `n + 1`
parts. -/
def split (sep : Char) : List Char → List (List Char)
  | [] => [[]]
  | c :: cs =>
    if c = sep then [] :: split sep cs
    else match split sep cs with
      | [] => [[c]]
      | p :: ps => (c :: p) :: ps

theorem split_ne_nil (sep : Char) (cs : List Char) : split sep cs ≠ [] := by
  cases cs with
  | nil => simp [split]
  | cons c cs =>
    unfold split
    split
    · simp
    · split <;> simp

theorem join_split (sep : Char) (cs : List Char) : [sep].intercalate (split sep cs) = cs := by
  induction cs with
  | nil => rfl
  | cons c cs ih =>
    have h := split_ne_nil sep cs
    unfold split
    cases hs : split sep cs with
    | nil => exact absurd hs h
    | cons p ps =>
      rw [hs] at ih
      split
      · next e => simp [e, ← ih, List.intercalate, List.intersperse]
      · cases ps <;> simp_all [List.intercalate, List.intersperse]

end TemplateLint.Text
