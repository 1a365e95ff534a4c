import Mathlib.Tactic.Lemma
import TemplateLint.Text.Glob

/-!
What a glob pattern stands for, character by character.

A star stands for any text, and a character that is no wildcard for itself, wherever the pattern
has it. So a pattern that begins with plain characters matches what begins with them, and one of
plain characters only matches itself. Main statements: `Matches_star`, `Matches_plain_append`.
-/

namespace TemplateLint.Text.Glob

variable {c : Char} {p text cs e : List Char}

/-- A character that stands for itself, wherever it is in a pattern. -/
def IsPlain (c : Char) : Prop := c ≠ '*' ∧ c ≠ '?' ∧ c ≠ '['

instance : DecidablePred IsPlain := fun _ => inferInstanceAs (Decidable (_ ∧ _))

lemma mem_suffixes : e ∈ suffixes cs ↔ e <:+ cs := by
  induction cs with
  | nil => simp [suffixes]
  | cons c cs ih => rw [suffixes, List.mem_cons, ih, List.suffix_cons_iff]

/-! ### Single characters -/

@[simp] lemma Matches_nil : Matches [] text ↔ text = [] := by
  simp [Matches_eq, compile, matchPieces]

/-- **A star stands for any text**: the rest of the pattern has to match some end. -/
theorem Matches_star : Matches ('*' :: p) text ↔ ∃ e, e <:+ text ∧ Matches p e := by
  simp [Matches_eq, compile, matchPieces, mem_suffixes]

lemma Matches_plain (hc : IsPlain c) :
    Matches (c :: p) text ↔ ∃ rest, text = c :: rest ∧ Matches p rest := by
  obtain ⟨hstar, hany, hclass⟩ := hc
  have hcompile : compile 0 (c :: p) = .one c :: compile 0 p := by
    simp [compile, hstar, hany, hclass]
  simp only [Matches_eq, hcompile]
  cases text with
  | nil => simp [matchPieces]
  | cons d ds =>
    simp only [matchPieces, Piece.accepts, Bool.and_eq_true, beq_iff_eq, List.cons.injEq]
    constructor
    · rintro ⟨rfl, hrest⟩
      exact ⟨ds, ⟨rfl, rfl⟩, hrest⟩
    · rintro ⟨rest, ⟨rfl, rfl⟩, hrest⟩
      exact ⟨rfl, hrest⟩

/-! ### Plain texts -/

/-- **A pattern that begins with a plain text matches what begins with that text.** -/
theorem Matches_plain_append {lit : List Char} (h : ∀ c ∈ lit, IsPlain c) :
    Matches (lit ++ p) text ↔ ∃ rest, text = lit ++ rest ∧ Matches p rest := by
  induction lit generalizing text with
  | nil => simp
  | cons c lit ih =>
    obtain ⟨hc, hlit⟩ := List.forall_mem_cons.1 h
    rw [List.cons_append, Matches_plain hc]
    constructor
    · rintro ⟨rest, rfl, hrest⟩
      obtain ⟨rest, rfl, hmatch⟩ := (ih hlit).1 hrest
      exact ⟨rest, rfl, hmatch⟩
    · rintro ⟨rest, rfl, hmatch⟩
      exact ⟨lit ++ rest, rfl, (ih hlit).2 ⟨rest, rfl, hmatch⟩⟩

lemma Matches_of_plain {lit : List Char} (h : ∀ c ∈ lit, IsPlain c) :
    Matches lit text ↔ text = lit := by
  have happend : Matches (lit ++ []) text ↔ _ := Matches_plain_append h
  rw [List.append_nil] at happend
  simp [happend]

/-! ### Two stars -/

/-- Two stars stand for any text. -/
lemma Matches_stars (text : List Char) : Matches ['*', '*'] text :=
  Matches_star.2 ⟨text, List.suffix_rfl, Matches_star.2 ⟨[], List.nil_suffix, Matches_nil.2 rfl⟩⟩

/-- Behind two stars a pattern may begin at any occurrence of its first character. -/
lemma Matches_stars_plain (hc : IsPlain c) :
    Matches ('*' :: '*' :: c :: p) text ↔ ∃ a b, text = a ++ c :: b ∧ Matches p b := by
  constructor
  · intro h
    obtain ⟨e, he, h⟩ := Matches_star.1 h
    obtain ⟨e', he', h⟩ := Matches_star.1 h
    obtain ⟨b, rfl, hb⟩ := (Matches_plain hc).1 h
    obtain ⟨a, rfl⟩ := he'.trans he
    exact ⟨a, b, rfl, hb⟩
  · rintro ⟨a, b, rfl, hb⟩
    have hplain : Matches (c :: p) (c :: b) := (Matches_plain hc).2 ⟨b, rfl, hb⟩
    exact Matches_star.2 ⟨_, List.suffix_append a _, Matches_star.2 ⟨_, List.suffix_rfl, hplain⟩⟩

end TemplateLint.Text.Glob
