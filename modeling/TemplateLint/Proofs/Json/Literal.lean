import Mathlib.Algebra.Group.Nat.Defs
import TemplateLint.Json.Parser
import TemplateLint.Json.Printer
import TemplateLint.Proofs.Text.Decimal

/-!
Numbers and strings read back.

A number ends where nothing follows that would continue it, and a string at its closing quote: each
character in between is written so that reading takes exactly what writing left, in ASCII or not.
Main statements: `parseNumber_ofInt`, `parseStr_renderStr`.
-/

namespace TemplateLint

namespace Text.Escape

/-- Hexadecimal digits are read as the number that they are the lowest digits of. -/
lemma hexNumber?_hex (width n : Nat) (cs : List Char) :
    hexNumber? width (Quoted.hex width n ++ cs) = some (n % 16 ^ width) := by
  have hdigit : ∀ d < 16, hexValue? (Quoted.hexDigit d) = some d := by decide
  have hlength : ∀ w m, (Quoted.hex w m).length = w := by
    intro w
    induction w with
    | zero => exact fun _ => rfl
    | succ w ih => exact fun m => by simp [Quoted.hex, ih]
  have hfold : ∀ w m, (Quoted.hex w m).foldlM
      (fun k c => (hexValue? c).map (k * 16 + ·)) 0 = some (m % 16 ^ w) := by
    intro w
    induction w with
    | zero => exact fun m => by simp [Quoted.hex, Nat.mod_one]
    | succ w ih =>
      intro m
      have hsum : m / 16 % 16 ^ w * 16 + m % 16 = m % 16 ^ (w + 1) := by
        rw [Nat.pow_succ', Nat.mod_mul]
        omega
      simp [Quoted.hex, List.foldlM_append, ih, hdigit (m % 16) (by omega), hsum]
  have htake : (Quoted.hex width n ++ cs).take width = Quoted.hex width n :=
    List.take_left' (hlength width n)
  simp [hexNumber?, htake, hlength, hfold]

end Text.Escape

namespace Text.Utf16

lemma isHigh_iff {n : Nat} : isHigh n ↔ 0xD800 ≤ n ∧ n < 0xDC00 := by
  rw [isHigh, Bool.and_eq_true, decide_eq_true_eq, decide_eq_true_eq]
  rfl

lemma isLow_iff {n : Nat} : isLow n ↔ 0xDC00 ≤ n ∧ n < 0xE000 := by
  rw [isLow, Bool.and_eq_true, decide_eq_true_eq, decide_eq_true_eq]
  rfl

/-- The number of a character is that of no half. -/
lemma toNat_bounds (c : Char) :
    c.toNat < 0xD800 ∨ 0xE000 ≤ c.toNat ∧ c.toNat < 0x110000 := by
  have hvalid : c.toNat.isValidChar := c.valid
  unfold Nat.isValidChar at hvalid
  omega

lemma not_isHigh (c : Char) : isHigh c.toNat = false := by
  have hbounds := toNat_bounds c
  rw [← Bool.not_eq_true, isHigh_iff]
  omega

lemma not_isLow (c : Char) : isLow c.toNat = false := by
  have hbounds := toNat_bounds c
  rw [← Bool.not_eq_true, isLow_iff]
  omega

/-- Two halves of a character are put together again. -/
lemma join_units {c : Char} (h : 0x10000 ≤ c.toNat) : ∃ high low, units c = [high, low] ∧
    isHigh high ∧ isLow low ∧ join high low = c := by
  have hbounds := toNat_bounds c
  refine ⟨0xD800 + (c.toNat - 0x10000) / 0x400, 0xDC00 + (c.toNat - 0x10000) % 0x400,
    ?_, ?_, ?_, ?_⟩
  · simp [units, firstHigh, firstLow, Nat.not_lt.2 h]
  · rw [isHigh_iff]
    omega
  · rw [isLow_iff]
    omega
  · have hsum : 0x10000 + (0xD800 + (c.toNat - 0x10000) / 0x400 - 0xD800) * 0x400 +
        (0xDC00 + (c.toNat - 0x10000) % 0x400 - 0xDC00) = c.toNat := by omega
    rw [join, firstHigh, firstLow, hsum]
    exact Char.ofNat_toNat c

end Text.Utf16

namespace Json

open Text

/-! ### Numbers -/

/-- Whether an integer has no more digits than a limit, if there is one. -/
def Fits (limit : Option Nat) (i : Int) : Prop := ∀ k ∈ limit, (Decimal.digits i.natAbs).length ≤ k

lemma fits_none (i : Int) : Fits none i := fun _ h => by cases h

/-- What may stand behind a number: nothing that would continue it. -/
def EndsNumber (rest : List Char) : Prop :=
  ∀ c ∈ rest.head?, c.isDigit = false ∧ c ≠ '.' ∧ c ≠ 'e' ∧ c ≠ 'E'

section

variable {limit : Option Nat} {rest : List Char}

lemma parsePlaces_of_endsNumber (h : EndsNumber rest) : parsePlaces rest = none := by
  cases rest with
  | nil => rfl
  | cons c cs =>
    obtain ⟨-, hc, -⟩ := h c rfl
    unfold parsePlaces
    split
    · next hcons => exact absurd (List.cons.inj hcons).1 hc
    · rfl

lemma parseExponent_of_endsNumber (h : EndsNumber rest) : parseExponent rest = none := by
  cases rest with
  | nil => rfl
  | cons c cs =>
    obtain ⟨-, -, hlower, hupper⟩ := h c rfl
    simp [parseExponent, hlower, hupper]

/-- Digits are no sign. -/
lemma parseSign_digits (n : Nat) (rest : List Char) :
    parseSign (Decimal.digits n ++ rest) = (false, Decimal.digits n ++ rest) := by
  unfold parseSign
  split
  · next r hcons =>
    obtain ⟨c, cs, hcs, hdigit⟩ := Decimal.digits_eq_cons n
    rw [hcs] at hcons
    rw [(List.cons.inj hcons).1] at hdigit
    cases hdigit
  · rfl

/-- The digits of a number are taken whole: only zero begins with a zero. -/
lemma parseWhole_digits (n : Nat) (h : EndsNumber rest) :
    parseWhole (Decimal.digits n ++ rest) = (Decimal.digits n, rest) := by
  by_cases hn : n = 0
  · have hzero : Decimal.digits 0 = ['0'] := by
      rw [Decimal.digits]
      rfl
    rw [hn, hzero]
    rfl
  · unfold parseWhole
    split
    · next r hcons =>
      have hhead := congrArg List.head? hcons
      obtain ⟨c, cs, hcs, -⟩ := Decimal.digits_eq_cons n
      have hfirst := Decimal.head_digits hn
      rw [hcs] at hhead hfirst
      exact absurd hhead hfirst
    · exact Decimal.span_digits n fun c hc => (h c hc).1

lemma parseNumber_digits {cs : List Char} {n : Nat} {negative : Bool}
    (hsign : parseSign cs = (negative, Decimal.digits n ++ rest)) (hn : Fits limit n)
    (h : EndsNumber rest) :
    parseNumber limit cs = some (.int (if negative then -(n : Int) else n), rest) := by
  have hfew : limit.any (· < (Decimal.digits n).length) = false := by
    cases limit with
    | none => rfl
    | some k =>
      have hk : (Decimal.digits n).length ≤ k := hn k rfl
      simpa using hk
  have hempty : (Decimal.digits n).isEmpty = false := by
    simpa using Decimal.digits_ne_nil n
  simp [parseNumber, hsign, parseWhole_digits n h, hempty, parsePlaces_of_endsNumber h,
    parseExponent_of_endsNumber h, hfew, Decimal.value_digits]

/-- **An integer is read from its digits.** -/
theorem parseNumber_ofInt {i : Int} (hi : Fits limit i) (h : EndsNumber rest) :
    parseNumber limit (Text.Decimal.ofInt i ++ rest) = some (.int i, rest) := by
  cases i with
  | ofNat n => exact parseNumber_digits (parseSign_digits n rest) hi h
  | negSucc n =>
    have hsign : parseSign (Text.Decimal.ofInt (.negSucc n) ++ rest) =
        (true, Decimal.digits (n + 1) ++ rest) := rfl
    exact parseNumber_digits hsign hi h

end

/-! ### Strings -/

lemma parseStr_skip (skip : Nat) (cs : List Char) :
    parseStr skip cs = parseStr 0 (cs.drop skip) := by
  induction skip generalizing cs with
  | zero => rfl
  | succ skip ih =>
    cases cs with
    | nil => rfl
    | cons c cs => exact ih cs

/-- Reading goes on behind a character. -/
def more (c : Char) (r : Option (List Char × List Char)) : Option (List Char × List Char) :=
  r.map fun p => (c :: p.1, p.2)

lemma parseStr_letter {e d : Char} (h : letterEscape? e = some d) (cs : List Char) :
    parseStr 0 ('\\' :: e :: cs) = more d (parseStr 0 cs) := by
  have hu : e ≠ 'u' := by
    rintro rfl
    cases h
  have hskip : parseStr 1 (e :: cs) = parseStr 0 cs := rfl
  rw [parseStr, if_neg (by decide), if_neg (by decide), if_pos rfl]
  · simp only [h, hskip, more]
    cases parseStr 0 cs <;> rfl
  · exact hu

lemma parseStr_units {d : Char} {k : Nat} {cs : List Char} (h : unitChar? cs = some (d, k)) :
    parseStr 0 ('\\' :: 'u' :: cs) = more d (parseStr 0 (cs.drop k)) := by
  have hskip : parseStr (k + 1) ('u' :: cs) = parseStr 0 (cs.drop k) := parseStr_skip k cs
  rw [parseStr, if_neg (by decide), if_neg (by decide), if_pos rfl]
  simp only [h, more, Option.bind_eq_bind, Option.bind_some, hskip]
  cases parseStr 0 (cs.drop k) <;> rfl

lemma parseStr_plain {c : Char} (hquote : c ≠ '"') (hslash : c ≠ '\\') (hc : 0x20 ≤ c.toNat)
    (cs : List Char) : parseStr 0 (c :: cs) = more c (parseStr 0 cs) := by
  rw [parseStr.eq_def]
  simp only [hquote, hslash, Nat.not_lt.2 hc, if_false, more]
  cases parseStr 0 cs <;> rfl

/-- A character is read from its units, one or two of them. -/
lemma parseStr_point (c : Char) (cs : List Char) :
    parseStr 0 (pointEscape c ++ cs) = more c (parseStr 0 cs) := by
  rcases Nat.lt_or_ge c.toNat 0x10000 with hn | hn
  · have hescape : pointEscape c = unitEscape c.toNat := by
      simp [pointEscape, Utf16.units, hn]
    have hread : unitChar? (Quoted.hex 4 c.toNat ++ cs) = some (c, 4) := by
      have hhex := Escape.hexNumber?_hex 4 c.toNat cs
      rw [Nat.mod_eq_of_lt (show c.toNat < 16 ^ 4 from hn)] at hhex
      simp [unitChar?, hhex, Utf16.not_isHigh, Utf16.not_isLow, Utf16.charOf]
    rw [hescape]
    exact parseStr_units hread
  · obtain ⟨high, low, hunits, hhigh, hlow, hjoin⟩ := Utf16.join_units hn
    have hescape : pointEscape c = unitEscape high ++ unitEscape low := by
      simp [pointEscape, hunits]
    have hread : unitChar? (Quoted.hex 4 high ++ (unitEscape low ++ cs)) = some (c, 10) := by
      have hhexHigh := Escape.hexNumber?_hex 4 high (unitEscape low ++ cs)
      have hhexLow := Escape.hexNumber?_hex 4 low cs
      rw [Nat.mod_eq_of_lt (by rw [Utf16.isHigh_iff] at hhigh; omega)] at hhexHigh
      rw [Nat.mod_eq_of_lt (by rw [Utf16.isLow_iff] at hlow; omega)] at hhexLow
      have hdrop : (Quoted.hex 4 high ++ (unitEscape low ++ cs)).drop 4 =
        '\\' :: 'u' :: (Quoted.hex 4 low ++ cs) := rfl
      simp [unitChar?, hhexHigh, hhigh, hdrop, lowHalf?, hhexLow, Option.filter, hlow, hjoin]
    rw [hescape, List.append_assoc]
    exact parseStr_units hread

variable {st : Style}

/-- A character is read from what is written for it. -/
lemma parseStr_escapeChar (hst : st.halves = false) (c : Char) (cs : List Char) :
    parseStr 0 (escapeChar st c ++ cs) = more c (parseStr 0 cs) := by
  have hhalf : st.half? c = none := by simp [Style.half?, hst]
  have hsame : ∀ n, c.toNat = n → c = Char.ofNat n := fun n hn => by
    rw [← hn]
    exact (Char.ofNat_toNat c).symm
  unfold escapeChar
  rw [hhalf]
  split_ifs with hquote hslash hbreak hreturn htab hback hfeed hcontrol hascii
  · exact parseStr_letter (by rw [hquote]; rfl) cs
  · exact parseStr_letter (by rw [hslash]; rfl) cs
  · exact parseStr_letter (by rw [hbreak]; rfl) cs
  · exact parseStr_letter (by rw [hreturn]; rfl) cs
  · exact parseStr_letter (by rw [htab]; rfl) cs
  · exact parseStr_letter (by rw [hsame _ hback]; rfl) cs
  · exact parseStr_letter (by rw [hsame _ hfeed]; rfl) cs
  · have hpoint : unitEscape c.toNat = pointEscape c := by
      have hn : c.toNat < 0x10000 := by omega
      simp [pointEscape, Utf16.units, hn]
    rw [hpoint]
    exact parseStr_point c cs
  · exact parseStr_point c cs
  · exact parseStr_plain hquote hslash (Nat.not_lt.1 hcontrol) cs

/-- **A string is read up to its closing quote.** -/
theorem parseStr_renderStr (hst : st.halves = false) (s : List Char) (rest : List Char) :
    parseStr 0 (s.flatMap (escapeChar st) ++ '"' :: rest) = some (s, rest) := by
  induction s with
  | nil => rfl
  | cons c s ih =>
    rw [List.flatMap_cons, List.append_assoc, parseStr_escapeChar hst, ih]
    rfl

end Json

end TemplateLint
