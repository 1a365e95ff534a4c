import TemplateLint.Text.Word

/-!
Scanners: each takes the text that is left and splits off what it recognises.

Main statement: the scanners for words, numbers and strings lose nothing (`Splits`).
-/

namespace TemplateLint

/-- The text recognised and the text after it. -/
abbrev Scan := List Char → Option (List Char × List Char)

namespace Scan

/-- What is recognised, followed by what is left, is the text that was given. -/
def Splits (s : Scan) : Prop := ∀ cs t r, s cs = some (t, r) → t ++ r = cs

/-- A fixed text. -/
def literal : List Char → Scan
  | [], cs => some ([], cs)
  | w :: ws, c :: cs => if w = c then (literal ws cs).map fun (t, r) => (c :: t, r) else none
  | _ :: _, [] => none

def seq (a b : Scan) : Scan := fun cs =>
  match a cs with
  | none => none
  | some (t, r) => (b r).map fun (u, r) => (t ++ u, r)

def orElse (a b : Scan) : Scan := fun cs =>
  match a cs with
  | some x => some x
  | none => b cs

/-- As many characters of a class as there are, also none. -/
def run (p : Char → Bool) : Scan := fun cs => some (cs.takeWhile p, cs.dropWhile p)

/-- A character of a class, if there is one. -/
def optional (p : Char → Bool) : Scan
  | c :: cs => if p c then some ([c], cs) else some ([], c :: cs)
  | [] => some ([], [])

/-- Characters of a class and then something else: as many of them as leave room for the rest. -/
def runThen (p : Char → Bool) (next : Scan) : Scan
  | [] => next []
  | c :: cs =>
    if p c then
      match runThen p next cs with
      | some (t, r) => some (c :: t, r)
      | none => next (c :: cs)
    else next (c :: cs)

/-- Digits of a class, with single low lines between them or in front. -/
def groups (p : Char → Bool) : List Char → List Char × List Char
  | '_' :: d :: cs =>
    if p d then
      let (t, r) := groups p cs
      ('_' :: d :: t, r)
    else ([], '_' :: d :: cs)
  | c :: cs =>
    if p c then
      let (t, r) := groups p cs
      (c :: t, r)
    else ([], c :: cs)
  | [] => ([], [])

/-- Decimal digits in groups; the first character is a digit. -/
def digits : Scan
  | c :: cs =>
    if Text.isDecimal c then
      let (t, r) := groups Text.isDecimal cs
      some (c :: t, r)
    else none
  | [] => none

/-- Digits of a class after the first characters of a number, in groups and at least one. -/
def groups1 (p : Char → Bool) : Scan := fun cs =>
  match groups p cs with
  | ([], _) => none
  | (t, r) => some (t, r)

def exactly (p : Char → Bool) : Scan
  | c :: cs => if p c then some ([c], cs) else none
  | [] => none

def isSign (c : Char) : Bool := c == '+' || c == '-'

/-- The letter of an exponent, its sign and its digits. -/
def exponent : Scan :=
  seq (exactly fun c => c == 'e' || c == 'E') (seq (optional isSign) digits)

/-- A point and the digits behind it. -/
def places : Scan := seq (exactly (· == '.')) digits

/-- A number with a point or an exponent. -/
def float : Scan :=
  seq digits (orElse (seq places exponent) (orElse exponent places))

def isHex (c : Char) : Bool :=
  Text.isDecimal c || 'a' ≤ c && c ≤ 'f' || 'A' ≤ c && c ≤ 'F'

/-- A number in the base that the letter after its zero names. -/
def based (lower upper : Char) (p : Char → Bool) : Scan :=
  seq (exactly (· == '0')) (seq (exactly fun c => c == lower || c == upper) (groups1 p))

/-- A number without point and exponent, in any of four bases. -/
def integer : Scan :=
  orElse (based 'b' 'B' fun c => c == '0' || c == '1') <|
  orElse (based 'o' 'O' fun c => '0' ≤ c && c ≤ '7') <|
  orElse (based 'x' 'X' isHex) <|
  orElse (seq (exactly fun c => '1' ≤ c && c ≤ '9') fun cs => some (groups Text.isDecimal cs)) <|
  seq (exactly (· == '0')) fun cs => some (groups (· == '0') cs)

/-- At least one character of a class. -/
def run1 (p : Char → Bool) : Scan := fun cs =>
  match run p cs with
  | some (c :: t, r) => some (c :: t, r)
  | _ => none

/-- The inside of a string up to its closing quote; a backslash takes the next character along. -/
def stringBody (quote : Char) : List Char → Option (List Char × List Char)
  | '\\' :: c :: cs => (stringBody quote cs).map fun (t, r) => ('\\' :: c :: t, r)
  | c :: cs =>
    if c = quote then some ([c], cs)
    else if c = '\\' then none
    else (stringBody quote cs).map fun (t, r) => (c :: t, r)
  | [] => none

def string : Scan
  | c :: cs =>
    if c = '\'' ∨ c = '"' then (stringBody c cs).map fun (t, r) => (c :: t, r) else none
  | [] => none

/-- The operators of two characters and those of one. -/
def operators : List String := [
  "//", "**", "==", "!=", ">=", "<=",
  "+", "-", "/", "*", "%", "~", "[", "]", "(", ")", "\x7b", "\x7d", ">", "<", "=", ".", ":", "|",
  ",", ";"]

def operator : Scan := fun cs => operators.findSome? fun w => literal w.toList cs

/-- Goes through a text up to the first place at which something is found. `prev` is the character
in front of the text. -/
def findFirst {α : Type} (m : Option Char → List Char → Option α) :
    Option Char → List Char → Option (List Char × α)
  | prev, [] => (m prev []).map fun a => ([], a)
  | prev, c :: cs =>
    match m prev (c :: cs) with
    | some a => some ([], a)
    | none => (findFirst m (some c) cs).map fun (t, a) => (c :: t, a)

theorem literal_eq_some {w cs t r : List Char} (h : literal w cs = some (t, r)) :
    t = w ∧ t ++ r = cs := by
  induction w generalizing cs t r with
  | nil => simp_all [literal]
  | cons w ws ih =>
    cases cs with
    | nil => simp [literal] at h
    | cons c cs =>
      simp only [literal] at h
      split at h
      · next hc =>
        obtain ⟨⟨u, v⟩, hu, he⟩ := Option.map_eq_some_iff.1 h
        obtain ⟨rfl, hv⟩ := ih hu
        simp only [Prod.mk.injEq] at he
        obtain ⟨rfl, rfl⟩ := he
        simp [hc, hv]
      · simp at h

theorem splits_literal (w : List Char) : Splits (literal w) := fun _ _ _ h => (literal_eq_some h).2

theorem splits_seq {a b : Scan} (ha : Splits a) (hb : Splits b) : Splits (seq a b) := by
  intro cs t r h
  simp only [seq] at h
  split at h
  · simp at h
  · next u v hu =>
    obtain ⟨⟨x, y⟩, hx, he⟩ := Option.map_eq_some_iff.1 h
    simp only [Prod.mk.injEq] at he
    obtain ⟨rfl, rfl⟩ := he
    rw [List.append_assoc, hb _ _ _ hx, ha _ _ _ hu]

theorem splits_orElse {a b : Scan} (ha : Splits a) (hb : Splits b) : Splits (orElse a b) := by
  intro cs t r h
  simp only [orElse] at h
  split at h
  · next x hx => exact ha _ _ _ (hx.trans h)
  · exact hb _ _ _ h

theorem splits_run (p : Char → Bool) : Splits (run p) := by
  intro cs t r h
  simp only [run, Option.some.injEq, Prod.mk.injEq] at h
  obtain ⟨rfl, rfl⟩ := h
  exact List.takeWhile_append_dropWhile

theorem splits_runThen {p : Char → Bool} {next : Scan} (hn : Splits next) :
    Splits (runThen p next) := by
  intro cs
  induction cs with
  | nil => exact hn []
  | cons c cs ih =>
    intro t r h
    simp only [runThen] at h
    split at h
    · split at h
      · next u v hu =>
        simp only [Option.some.injEq, Prod.mk.injEq] at h
        obtain ⟨rfl, rfl⟩ := h
        simp [ih _ _ hu]
      · exact hn _ _ _ h
    · exact hn _ _ _ h

end Scan

end TemplateLint
