/-!
Replacing every occurrence of a text.
-/

namespace TemplateLint.Text

/-- What remains of a text after another one that it starts with. -/
def dropStart? : List Char → List Char → Option (List Char)
  | [], cs => some cs
  | p :: ps, c :: cs => if p = c then dropStart? ps cs else none
  | _ :: _, [] => none

theorem dropStart?_length {ps cs rest : List Char} (h : dropStart? ps cs = some rest) :
    rest.length + ps.length = cs.length := by
  induction ps generalizing cs with
  | nil => simp [dropStart?] at h; simp [h]
  | cons p ps ih =>
    cases cs with
    | nil => simp [dropStart?] at h
    | cons c cs =>
      simp only [dropStart?] at h
      split at h
      · have := ih h; simp only [List.length_cons]; omega
      · simp at h

/-- The text with every occurrence of `p :: ps` replaced, from the left. -/
def replaceFrom (p : Char) (ps new : List Char) : List Char → List Char
  | [] => []
  | c :: cs =>
    match _h : dropStart? (p :: ps) (c :: cs) with
    | some rest => new ++ replaceFrom p ps new rest
    | none => c :: replaceFrom p ps new cs
termination_by cs => cs.length
decreasing_by
  · have := dropStart?_length _h
    simp only [List.length_cons] at this ⊢
    omega
  · simp

/-- The text with every occurrence of `old` replaced; the empty text occurs at both ends and between
any two characters. -/
def replaceChars (old new cs : List Char) : List Char :=
  match old with
  | [] => new ++ cs.flatMap fun c => c :: new
  | p :: ps => replaceFrom p ps new cs

def replaceAll (old new s : String) : String :=
  String.ofList (replaceChars old.toList new.toList s.toList)

end TemplateLint.Text
