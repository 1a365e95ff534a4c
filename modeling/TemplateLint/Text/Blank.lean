/-!
White space: which characters are blank, and removing them at the ends of a text.
-/

namespace TemplateLint.Text

/-- Whether a code point lies in one of the closed ranges. -/
def inRanges (ranges : List (Nat × Nat)) (n : Nat) : Bool :=
  ranges.any fun r => r.1 ≤ n && n ≤ r.2

/-- The code points that count as white space. -/
def blankRanges : List (Nat × Nat) := [
  (0x09, 0x0D), (0x1C, 0x20), (0x85, 0x85), (0xA0, 0xA0), (0x1680, 0x1680),
  (0x2000, 0x200A), (0x2028, 0x2029), (0x202F, 0x202F), (0x205F, 0x205F), (0x3000, 0x3000)]

def isBlank (c : Char) : Bool := inRanges blankRanges c.toNat

/-- Blank, and not a line break. -/
def isInlineBlank (c : Char) : Bool := isBlank c && c != '\n' && c != '\r'

def trimStart (cs : List Char) : List Char := cs.dropWhile isBlank

/-- Drops the blanks that nothing else follows. -/
def trimEnd : List Char → List Char
  | [] => []
  | c :: cs =>
    match trimEnd cs with
    | [] => if isBlank c then [] else [c]
    | rest => c :: rest

def trim (cs : List Char) : List Char := trimEnd (trimStart cs)

/-- The text without blanks at either end. -/
def stripped (s : String) : String := String.ofList (trim s.toList)

@[simp] theorem trimEnd_nil : trimEnd [] = [] := rfl

/-- Only blanks are dropped. -/
theorem trimEnd_append_blanks (cs : List Char) :
    ∃ bs, trimEnd cs ++ bs = cs ∧ ∀ b ∈ bs, isBlank b = true := by
  induction cs with
  | nil => exact ⟨[], rfl, by simp⟩
  | cons c cs ih =>
    obtain ⟨bs, h, hb⟩ := ih
    cases ht : trimEnd cs with
    | nil =>
      simp only [ht, List.nil_append] at h
      by_cases hc : isBlank c = true
      · exact ⟨c :: bs, by simp [trimEnd, ht, hc, h], by simp_all⟩
      · exact ⟨bs, by simp [trimEnd, ht, hc, h], hb⟩
    | cons d ds =>
      rw [ht] at h
      exact ⟨bs, by simpa [trimEnd, ht] using h, hb⟩

end TemplateLint.Text
