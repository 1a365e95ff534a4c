import Mathlib.Data.List.Basic
import Mathlib.Data.List.TakeWhile
import TemplateLint.Text.Lines

/-!
The lines of a text, and what is left of a line without the blanks at its ends.

A line that is not empty stands between two breaks, or between a break and an end of the text,
wherever breaks are `\n`, `\r` or both of them (`mem_lines_iff`). The core of a text begins and ends
with characters that are not blank, and has nothing but blanks around it (`trim_eq_iff`).
-/

namespace TemplateLint.Text

variable {c : Char} {cs line core text : List Char}

/-! ### Lines -/

def IsBreak (c : Char) : Prop := c = '\n' ∨ c = '\r'

instance : DecidablePred IsBreak := fun _ => inferInstanceAs (Decidable (_ ∨ _))

/-- The characters stand in a text between breaks, or between a break and an end of the text, and
have no break among them. -/
def IsLine (line text : List Char) : Prop :=
  ∃ before after, text = before ++ line ++ after ∧ (∀ c ∈ line, ¬IsBreak c) ∧
    (∀ c ∈ before.getLast?, IsBreak c) ∧ ∀ c ∈ after.head?, IsBreak c

/-- The line does not stand at the beginning of the text. -/
def IsLaterLine (line text : List Char) : Prop :=
  ∃ before after, before ≠ [] ∧ text = before ++ line ++ after ∧ (∀ c ∈ line, ¬IsBreak c) ∧
    (∀ c ∈ before.getLast?, IsBreak c) ∧ ∀ c ∈ after.head?, IsBreak c

/-- What is before the first break of a text. -/
def firstLine (text : List Char) : List Char := text.takeWhile fun c => !decide (IsBreak c)

lemma firstLine_cons_of_break (hc : IsBreak c) : firstLine (c :: cs) = [] := by
  simp [firstLine, hc]

lemma firstLine_cons_of_not_break (hc : ¬IsBreak c) :
    firstLine (c :: cs) = c :: firstLine cs := by
  simp [firstLine, hc]

/-- A line at the beginning of a text is the one before the first break. -/
lemma eq_firstLine_iff : line = firstLine text ↔
    ∃ after, text = line ++ after ∧ (∀ c ∈ line, ¬IsBreak c) ∧ ∀ c ∈ after.head?, IsBreak c := by
  induction text generalizing line with
  | nil =>
    constructor
    · rintro rfl
      exact ⟨[], rfl, by simp [firstLine], by simp⟩
    · rintro ⟨after, htext, -⟩
      exact (List.append_eq_nil_iff.1 htext.symm).1
  | cons c cs ih =>
    by_cases hc : IsBreak c
    · rw [firstLine_cons_of_break hc]
      constructor
      · rintro rfl
        exact ⟨c :: cs, rfl, by simp, by simpa using hc⟩
      · rintro ⟨after, htext, hline, -⟩
        cases line with
        | nil => rfl
        | cons d line =>
          obtain ⟨rfl, -⟩ := List.cons.inj htext
          exact absurd hc (hline _ List.mem_cons_self)
    · rw [firstLine_cons_of_not_break hc]
      constructor
      · rintro rfl
        obtain ⟨after, htext, hline, hafter⟩ := ih.1 rfl
        exact ⟨after, congrArg (c :: ·) htext, List.forall_mem_cons.2 ⟨hc, hline⟩, hafter⟩
      · rintro ⟨after, htext, hline, hafter⟩
        cases line with
        | nil =>
          rw [List.nil_append] at htext
          subst htext
          exact absurd (hafter c (by simp)) hc
        | cons d line =>
          obtain ⟨rfl, hrest⟩ := List.cons.inj htext
          rw [ih.2 ⟨after, hrest, (List.forall_mem_cons.1 hline).2, hafter⟩]

lemma isLine_iff : IsLine line text ↔ line = firstLine text ∨ IsLaterLine line text := by
  rw [eq_firstLine_iff]
  constructor
  · rintro ⟨before, after, htext, hline, hbefore, hafter⟩
    by_cases hnil : before = []
    · subst hnil
      exact .inl ⟨after, htext, hline, hafter⟩
    · exact .inr ⟨before, after, hnil, htext, hline, hbefore, hafter⟩
  · rintro (⟨after, htext, hline, hafter⟩ | ⟨before, after, -, h⟩)
    · exact ⟨[], after, htext, hline, by simp, hafter⟩
    · exact ⟨before, after, h⟩

lemma isLaterLine_cons_of_break (hc : IsBreak c) : IsLaterLine line (c :: cs) ↔ IsLine line cs := by
  constructor
  · rintro ⟨_ | ⟨d, before⟩, after, hne, htext, hline, hbefore, hafter⟩
    · exact absurd rfl hne
    obtain ⟨rfl, hrest⟩ := List.cons.inj htext
    refine ⟨before, after, hrest, hline, fun e he => hbefore e ?_, hafter⟩
    cases before with
    | nil => cases he
    | cons d' before => rwa [List.getLast?_cons_cons]
  · rintro ⟨before, after, rfl, hline, hbefore, hafter⟩
    refine ⟨c :: before, after, by simp, rfl, hline, fun e he => ?_, hafter⟩
    cases before with
    | nil => simp_all
    | cons d before =>
      rw [List.getLast?_cons_cons] at he
      exact hbefore e he

lemma isLaterLine_cons_of_not_break (hc : ¬IsBreak c) :
    IsLaterLine line (c :: cs) ↔ IsLaterLine line cs := by
  constructor
  · rintro ⟨_ | ⟨d, _ | ⟨d', before⟩⟩, after, hne, htext, hline, hbefore, hafter⟩
    · exact absurd rfl hne
    · obtain ⟨rfl, -⟩ := List.cons.inj htext
      exact absurd (hbefore c (by simp)) hc
    · obtain ⟨rfl, hrest⟩ := List.cons.inj htext
      rw [List.getLast?_cons_cons] at hbefore
      exact ⟨d' :: before, after, by simp, hrest, hline, hbefore, hafter⟩
  · rintro ⟨_ | ⟨d, before⟩, after, hne, rfl, hline, hbefore, hafter⟩
    · exact absurd rfl hne
    · refine ⟨c :: d :: before, after, by simp, rfl, hline, ?_, hafter⟩
      rwa [List.getLast?_cons_cons]

/-- The break of a line plays no part in what the other lines are. -/
lemma lines_cons_break (cs : List Char) : lines ('\n' :: cs) = [] :: lines cs := by
  rw [lines, split, if_pos rfl]
  rfl

lemma lines_cons_of_not_break {first : List Char} {later : List (List Char)}
    (hc : ¬IsBreak c) (h : lines cs = first :: later) :
    lines (c :: cs) = (c :: first) :: later := by
  have hne : c ≠ '\n' := fun heq => hc (.inl heq)
  unfold lines at h ⊢
  rw [split, if_neg hne, h]

/-- The first line of a text, and the others. The induction is by the ways in which a break is
written. -/
lemma lines_unifyBreaks (text : List Char) : ∃ later, lines (unifyBreaks text) =
    firstLine text :: later ∧ ∀ line ≠ [], line ∈ later ↔ IsLaterLine line text := by
  have hbreak : ∀ {c cs later}, IsBreak c → (∀ line ≠ [], line ∈ later ↔ IsLaterLine line cs) →
      lines (unifyBreaks cs) = firstLine cs :: later →
      ∃ later, lines ('\n' :: unifyBreaks cs) = firstLine (c :: cs) :: later ∧
        ∀ line ≠ [], line ∈ later ↔ IsLaterLine line (c :: cs) := by
    intro c cs later hc hlater hlines
    refine ⟨firstLine cs :: later, ?_, fun line hline => ?_⟩
    · rw [lines_cons_break, hlines, firstLine_cons_of_break hc]
    · rw [isLaterLine_cons_of_break hc, isLine_iff, List.mem_cons, hlater line hline]
  fun_induction unifyBreaks text with
  | case1 cs ih =>
    obtain ⟨later, hlines, hlater⟩ := ih
    obtain ⟨later', hlines', hlater'⟩ := hbreak (.inl rfl) hlater hlines
    refine ⟨later', hlines'.trans ?_, fun line hline => ?_⟩
    · rw [firstLine_cons_of_break (.inl rfl), firstLine_cons_of_break (.inr rfl)]
    · -- between the two characters of the break there is no line but an empty one
      rw [isLaterLine_cons_of_break (.inr rfl), isLine_iff, firstLine_cons_of_break (.inl rfl),
        hlater' line hline, or_iff_right hline]
  | case2 cs hnot ih =>
    obtain ⟨later, hlines, hlater⟩ := ih
    exact hbreak (.inr rfl) hlater hlines
  | case3 c cs hboth hreturn ih =>
    obtain ⟨later, hlines, hlater⟩ := ih
    by_cases hc : IsBreak c
    · obtain rfl : c = '\n' := hc.resolve_right hreturn
      exact hbreak hc hlater hlines
    · refine ⟨later, ?_, fun line hline => ?_⟩
      · rw [lines_cons_of_not_break hc hlines, firstLine_cons_of_not_break hc]
      · rw [isLaterLine_cons_of_not_break hc, hlater line hline]
  | case4 =>
    refine ⟨[], rfl, fun line hline => iff_of_false List.not_mem_nil ?_⟩
    rintro ⟨before, after, hne, htext, -⟩
    rw [eq_comm, List.append_eq_nil_iff, List.append_eq_nil_iff] at htext
    exact hne htext.1.1

/-- **The lines of a text that are not empty** stand between its breaks. -/
theorem mem_lines_iff (hline : line ≠ []) : line ∈ lines (unifyBreaks text) ↔ IsLine line text := by
  obtain ⟨later, hlines, hlater⟩ := lines_unifyBreaks text
  rw [hlines, List.mem_cons, isLine_iff, hlater line hline]

/-! ### Cores -/

/-- The text is made of blanks, the core, and blanks, and the core neither begins nor ends with a
blank. -/
def IsCore (core text : List Char) : Prop :=
  ∃ before after, text = before ++ core ++ after ∧ (∀ c ∈ before, isBlank c) ∧
    (∀ c ∈ after, isBlank c) ∧ (∀ c ∈ core.head?, ¬isBlank c) ∧ ∀ c ∈ core.getLast?, ¬isBlank c

lemma trimEnd_append_of_blank {after : List Char} (h : ∀ c ∈ after, isBlank c) (cs : List Char) :
    trimEnd (cs ++ after) = trimEnd cs := by
  have hnil : trimEnd after = [] := by
    induction after with
    | nil => rfl
    | cons c cs ih =>
      obtain ⟨hc, hcs⟩ := List.forall_mem_cons.1 h
      simp [trimEnd, ih hcs, hc]
  induction cs with
  | nil => exact hnil
  | cons c cs ih => rw [List.cons_append, trimEnd, trimEnd, ih]

lemma trimEnd_eq_self (h : ∀ c ∈ cs.getLast?, ¬isBlank c) : trimEnd cs = cs := by
  induction cs with
  | nil => rfl
  | cons c cs ih =>
    cases cs with
    | nil => simpa [trimEnd] using h
    | cons d cs =>
      rw [List.getLast?_cons_cons] at h
      rw [trimEnd, ih h]

lemma not_isBlank_of_mem_getLast?_trimEnd (cs : List Char) :
    ∀ c ∈ (trimEnd cs).getLast?, ¬isBlank c := by
  induction cs with
  | nil => simp
  | cons d cs ih =>
    intro c hc
    cases htrim : trimEnd cs with
    | nil =>
      by_cases hd : isBlank d
      · simp [trimEnd, htrim, hd] at hc
      · simp only [trimEnd, htrim, hd, Bool.false_eq_true, if_false, List.getLast?_singleton,
          Option.mem_some_iff] at hc
        rwa [← hc]
    | cons e rest =>
      simp only [trimEnd, htrim, List.getLast?_cons_cons] at hc
      exact ih c (htrim ▸ hc)

/-- **What is left of a text without the blanks at its ends** is its core. -/
theorem trim_eq_iff (hcore : core ≠ []) : trim text = core ↔ IsCore core text := by
  constructor
  · rintro rfl
    obtain ⟨after, htrim, hafter⟩ := trimEnd_append_blanks (trimStart text)
    refine ⟨text.takeWhile isBlank, after, ?_, fun c hc => List.mem_takeWhile_imp hc, hafter, ?_,
      not_isBlank_of_mem_getLast?_trimEnd _⟩
    · rw [List.append_assoc, trim, htrim, trimStart, List.takeWhile_append_dropWhile]
    · intro c hc
      have hhead : c ∈ (trimStart text).head? := by
        rw [← htrim]
        exact List.mem_head?_append_of_mem_head? hc
      have hnot := List.head?_dropWhile_not isBlank text
      rw [show (text.dropWhile isBlank).head? = some c from hhead] at hnot
      simpa using hnot
  · rintro ⟨before, after, rfl, hbefore, hafter, hhead, hlast⟩
    have hstart : trimStart (before ++ core ++ after) = core ++ after := by
      rw [trimStart, List.append_assoc, List.dropWhile_append_of_pos hbefore]
      cases core with
      | nil => exact absurd rfl hcore
      | cons c core => rw [List.cons_append, List.dropWhile_cons_of_neg (hhead c rfl)]
    rw [trim, hstart, trimEnd_append_of_blank hafter, trimEnd_eq_self hlast]

end TemplateLint.Text
