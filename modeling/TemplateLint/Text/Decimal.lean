/-!
Decimal numbers: writing them, and reading runs of digits.
-/

namespace TemplateLint.Text.Decimal

/-- Decimal numbers with more digits than these are not read as integers, nor written. -/
def maxDigits : Nat := 4300

def digitChar (d : Nat) : Char := Char.ofNat (0x30 + d)

/-- The decimal digits of a number, most significant first. -/
def digits (n : Nat) : List Char :=
  if n < 10 then [digitChar n] else digits (n / 10) ++ [digitChar (n % 10)]
termination_by n

def ofNat (n : Nat) : List Char := digits n

def ofInt : Int → List Char
  | .ofNat n => digits n
  | .negSucc n => '-' :: digits (n + 1)

/-- The number that a run of digits denotes. -/
def value (cs : List Char) : Nat := cs.foldl (fun n c => n * 10 + (c.toNat - 0x30)) 0

/-- The digits that a text starts with, and what follows them. -/
def span (cs : List Char) : List Char × List Char :=
  (cs.takeWhile Char.isDigit, cs.dropWhile Char.isDigit)

end TemplateLint.Text.Decimal
