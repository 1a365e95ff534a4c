import Mathlib.Data.List.TakeDrop
import TemplateLint.Text.Decimal

/-!
Decimal digits read back.

A number is the value of its digits, and it is written without a zero in front. Main statements:
`value_digits`, `span_digits`.
-/

namespace TemplateLint.Text.Decimal

variable {n : Nat} {ds rest : List Char}

/-! ### Single digits -/

lemma toNat_digitChar (h : n < 10) : (digitChar n).toNat = 0x30 + n := by
  have hall : ∀ d < 10, (digitChar d).toNat = 0x30 + d := by decide
  exact hall n h

lemma isDigit_digitChar (h : n < 10) : (digitChar n).isDigit := by
  have hall : ∀ d < 10, (digitChar d).isDigit := by decide
  exact hall n h

lemma digitChar_ne_zero (h : n < 10) (hn : n ≠ 0) : digitChar n ≠ '0' := by
  have hall : ∀ d < 10, d ≠ 0 → digitChar d ≠ '0' := by decide
  exact hall n h hn

/-! ### All digits of a number -/

lemma digits_ne_nil (n : Nat) : digits n ≠ [] := by
  rw [digits]
  split <;> simp

lemma isDigit_of_mem_digits {c : Char} (h : c ∈ digits n) : c.isDigit := by
  fun_induction digits n with
  | case1 n hn =>
    rw [List.mem_singleton.1 h]
    exact isDigit_digitChar hn
  | case2 n hn ih =>
    rcases List.mem_append.1 h with h | h
    · exact ih h
    · rw [List.mem_singleton.1 h]
      exact isDigit_digitChar (Nat.mod_lt _ (by omega))

lemma digits_eq_cons (n : Nat) : ∃ c cs, digits n = c :: cs ∧ c.isDigit := by
  obtain ⟨c, cs, hcs⟩ := List.exists_cons_of_ne_nil (digits_ne_nil n)
  exact ⟨c, cs, hcs, isDigit_of_mem_digits (by rw [hcs]; exact .head _)⟩

lemma value_append (ds : List Char) (c : Char) :
    value (ds ++ [c]) = value ds * 10 + (c.toNat - 0x30) := by
  simp [value]

/-- **A number is the value of its digits.** -/
theorem value_digits (n : Nat) : value (digits n) = n := by
  fun_induction digits n with
  | case1 n hn => simp [value, toNat_digitChar hn]
  | case2 n hn ih =>
    have hlast : n % 10 < 10 := Nat.mod_lt _ (by omega)
    rw [value_append, ih, toNat_digitChar hlast]
    omega

/-- No digits but those of zero begin with a zero. -/
lemma head_digits (hn : n ≠ 0) : (digits n).head? ≠ some '0' := by
  fun_induction digits n with
  | case1 n hlt => simpa using digitChar_ne_zero hlt hn
  | case2 n hge ih =>
    have hfirst := ih (by omega)
    obtain ⟨c, cs, hcs, -⟩ := digits_eq_cons (n / 10)
    rw [hcs] at hfirst ⊢
    exact hfirst

/-! ### Runs of digits -/

/-- A run of digits is cut off whole where no digit follows. -/
lemma span_append (hds : ∀ c ∈ ds, c.isDigit) (hrest : ∀ c ∈ rest.head?, c.isDigit = false) :
    span (ds ++ rest) = (ds, rest) := by
  have hnone : rest.takeWhile Char.isDigit = [] ∧ rest.dropWhile Char.isDigit = rest := by
    cases rest with
    | nil => exact ⟨rfl, rfl⟩
    | cons c cs =>
      have hc : c.isDigit = false := hrest c rfl
      simp [hc]
  rw [span, List.takeWhile_append_of_pos hds, List.dropWhile_append_of_pos hds, hnone.1, hnone.2,
    List.append_nil]

lemma span_digits (n : Nat) (hrest : ∀ c ∈ rest.head?, c.isDigit = false) :
    span (digits n ++ rest) = (digits n, rest) :=
  span_append (fun _ => isDigit_of_mem_digits) hrest

end TemplateLint.Text.Decimal
