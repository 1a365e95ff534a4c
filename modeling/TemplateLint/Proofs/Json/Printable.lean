import TemplateLint.Proofs.Json.RoundTrip

/-!
The characters that JSON is written with.

In a style that escapes what is not ASCII, everything but the blanks between the parts is written
with printable characters. So what holds of these and of the blanks holds of a whole text. Main
statement: `forall_mem_render`.
-/

namespace TemplateLint.Json

open Text

/-- A character from the space to the tilde. -/
def IsPrintable (c : Char) : Prop := 0x20 ≤ c.toNat ∧ c.toNat < 0x7F

instance : DecidablePred IsPrintable := fun _ => inferInstanceAs (Decidable (_ ∧ _))

variable {st : Style} {limit : Option Nat}

/-! ### Strings and numbers -/

lemma isPrintable_hex (width n : Nat) : ∀ c ∈ Quoted.hex width n, IsPrintable c := by
  have hdigit : ∀ d < 16, IsPrintable (Quoted.hexDigit d) := by decide
  induction width generalizing n with
  | zero => simp [Quoted.hex]
  | succ width ih =>
    rw [Quoted.hex, List.forall_mem_append]
    refine ⟨ih _, fun c hc => ?_⟩
    rw [List.mem_singleton.1 hc]
    exact hdigit _ (Nat.mod_lt _ (by decide))

lemma isPrintable_unitEscape (n : Nat) : ∀ c ∈ unitEscape n, IsPrintable c := by
  rw [unitEscape, List.forall_mem_cons, List.forall_mem_cons]
  exact ⟨by decide, by decide, isPrintable_hex 4 n⟩

lemma isPrintable_escapeChar (hst : st.ascii) (c : Char) :
    ∀ d ∈ escapeChar st c, IsPrintable d := by
  have hletter : ∀ e, IsPrintable e → ∀ d ∈ ['\\', e], IsPrintable d := by
    intro e he d hd
    rw [List.mem_cons, List.mem_singleton] at hd
    rcases hd with rfl | rfl
    · decide
    · exact he
  unfold escapeChar
  split_ifs with _ _ _ _ _ _ _ hcontrol hascii
  iterate 7 exact hletter _ (by decide)
  · exact isPrintable_unitEscape _
  · split
    · exact isPrintable_unitEscape _
    · intro d hd
      obtain ⟨n, -, hd⟩ := List.mem_flatMap.1 hd
      exact isPrintable_unitEscape n d hd
  · split
    · exact isPrintable_unitEscape _
    · intro d hd
      rw [hst, Bool.true_and, decide_eq_true_eq, Nat.not_le] at hascii
      rw [List.mem_singleton.1 hd]
      exact ⟨Nat.not_lt.1 hcontrol, hascii⟩

lemma isPrintable_renderStr (hst : st.ascii) (s : String) :
    ∀ c ∈ renderStr st s, IsPrintable c := by
  intro c hc
  rw [renderStr, List.cons_append, List.mem_cons, List.mem_append, List.mem_singleton] at hc
  rcases hc with rfl | hc | rfl
  · decide
  · obtain ⟨d, -, hc⟩ := List.mem_flatMap.1 hc
    exact isPrintable_escapeChar hst d c hc
  · decide

lemma isPrintable_of_isDigit {c : Char} (h : c.isDigit) : IsPrintable c := by
  rw [Char.isDigit, Bool.and_eq_true, decide_eq_true_eq, decide_eq_true_eq] at h
  have hlow : 0x30 ≤ c.toNat := h.1
  have hhigh : c.toNat ≤ 0x39 := h.2
  constructor <;> omega

lemma isPrintable_ofInt (i : Int) : ∀ c ∈ Text.Decimal.ofInt i, IsPrintable c := by
  intro c hc
  cases i with
  | ofNat n => exact isPrintable_of_isDigit (Text.Decimal.isDigit_of_mem_digits hc)
  | negSucc n =>
    rcases List.mem_cons.1 hc with rfl | hc
    · decide
    · exact isPrintable_of_isDigit (Text.Decimal.isDigit_of_mem_digits hc)

/-! ### Whole values -/

/-- What holds of printable characters holds of the blanks of a style, too. -/
structure Style.Admits (st : Style) (P : Char → Prop) : Prop where
  printable : ∀ c, IsPrintable c → P c
  bracketGap : ∀ depth, ∀ c ∈ st.bracketGap depth, P c
  commaGap : ∀ depth, ∀ c ∈ st.commaGap depth, P c
  colonGap : ∀ c ∈ st.colonGap, P c

section

variable {P : Char → Prop} (hP : st.Admits P)

include hP

lemma forall_mem_renderItems {xs : List Json} {depth : Nat}
    (ih : ∀ x ∈ xs, ∀ c ∈ renderAt st depth x, P c) : ∀ c ∈ renderItems st depth xs, P c := by
  induction xs with
  | nil => simp [renderItems]
  | cons x xs ihxs =>
    rw [renderItems]
    simp only [List.cons_append, List.forall_mem_cons, List.forall_mem_append]
    exact ⟨hP.printable _ (by decide), ⟨hP.commaGap depth, ih x (.head _)⟩,
      ihxs fun y hy => ih y (.tail _ hy)⟩

lemma forall_mem_renderStr (hst : st.ascii) (s : String) : ∀ c ∈ renderStr st s, P c :=
  fun c hc => hP.printable c (isPrintable_renderStr hst s c hc)

lemma forall_mem_renderMembers (hst : st.ascii) {ms : List (String × Json)} {depth : Nat}
    (ih : ∀ m ∈ ms, ∀ c ∈ renderAt st depth m.2, P c) :
    ∀ c ∈ renderMembers st depth ms, P c := by
  induction ms with
  | nil => simp [renderMembers]
  | cons m ms ihms =>
    rw [renderMembers]
    simp only [List.cons_append, List.forall_mem_cons, List.forall_mem_append]
    exact ⟨hP.printable _ (by decide), ⟨⟨⟨hP.commaGap depth, forall_mem_renderStr hP hst _⟩,
      hP.printable _ (by decide), hP.colonGap⟩, ih m (.head _)⟩, ihms fun y hy => ih y (.tail _ hy)⟩

/-- **What holds of printable characters and of the blanks holds of all that is written.** -/
theorem forall_mem_renderAt (hst : st.ascii) {j : Json} (hj : Plain limit j) (depth : Nat) :
    ∀ c ∈ renderAt st depth j, P c := by
  have hword : ∀ word : List Char, word.all (IsPrintable ·) → ∀ c ∈ word, P c :=
    fun _ h c hc => hP.printable c (by simpa using List.all_eq_true.1 h c hc)
  induction hj generalizing depth with
  | null =>
    rw [renderAt]
    exact hword _ (by decide)
  | bool b =>
    cases b <;>
    · rw [renderAt]
      exact hword _ (by decide)
  | @int i _ =>
    rw [renderAt]
    exact fun c hc => hP.printable c (isPrintable_ofInt i c hc)
  | str s =>
    rw [renderAt]
    exact forall_mem_renderStr hP hst s
  | @arr xs _ ih =>
    cases xs with
    | nil =>
      rw [renderAt]
      exact hword _ (by decide)
    | cons x xs =>
      have hitems := forall_mem_renderItems hP fun y hy => ih y (.tail _ hy) (depth + 1)
      rw [renderAt]
      simp only [List.cons_append, List.forall_mem_cons, List.forall_mem_append]
      exact ⟨hP.printable _ (by decide), ⟨⟨⟨hP.bracketGap _, ih x (.head _) _⟩, hitems⟩,
        hP.bracketGap _⟩, hP.printable _ (by decide), List.forall_mem_nil _⟩
  | @obj ms _ ih =>
    cases ms with
    | nil =>
      rw [renderAt]
      exact hword _ (by decide)
    | cons m ms =>
      have hmembers := forall_mem_renderMembers hP hst fun y hy => ih y (.tail _ hy) (depth + 1)
      rw [renderAt]
      simp only [List.cons_append, List.forall_mem_cons, List.forall_mem_append]
      exact ⟨hP.printable _ (by decide), ⟨⟨⟨⟨⟨hP.bracketGap _, forall_mem_renderStr hP hst _⟩,
        hP.printable _ (by decide), hP.colonGap⟩, ih m (.head _) _⟩, hmembers⟩,
        hP.bracketGap _⟩, hP.printable _ (by decide), List.forall_mem_nil _⟩

theorem forall_mem_render (hst : st.ascii) {j : Json} (hj : Plain limit j) :
    ∀ c ∈ (render st j).toList, P c := by
  rw [render, String.toList_ofList]
  exact forall_mem_renderAt hP hst hj 0

end

end TemplateLint.Json
