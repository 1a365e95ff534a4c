import TemplateLint.Text.Decimal

/-!
Numbers in double precision: the one that is nearest to a decimal number, and the shortest decimal
number that reads back as it.

Whatever is read is exact before it is rounded, so a number is a fraction of natural numbers here,
and both directions compare fractions only.
-/

namespace TemplateLint

inductive Double where
  | nan
  | infinite (negative : Bool)
  /-- The number `m * 2 ^ e`, or its opposite. -/
  | finite (negative : Bool) (m : Nat) (e : Int)
deriving DecidableEq, Repr

namespace Double

/-- The number of binary digits of `m`, and the least and the greatest `e`. -/
def precision : Nat := 53
def leastExponent : Int := -1074
def greatestExponent : Int := 971

def zero (negative : Bool) : Double := .finite negative 0 leastExponent

/-- The numerator and the denominator of `n * base ^ e`. -/
def ratio (base n : Nat) (e : Int) : Nat × Nat :=
  (n * Nat.pow base e.toNat, Nat.pow base (-e).toNat)

/-- The integer nearest to a quotient; a half goes to the even one. -/
def roundDiv (num den : Nat) : Nat :=
  let q := num / den
  let r := num % den
  if 2 * r < den then q else if den < 2 * r then q + 1 else q + q % 2

/-- The greatest `k` with `base ^ k ≤ num / den`, given that `guess` is it or the next one. -/
def floorLog (base num den : Nat) (guess : Int) : Int :=
  if num * Nat.pow base (-guess).toNat < den * Nat.pow base guess.toNat then guess - 1 else guess

/-- The number nearest to a positive fraction. -/
def ofRatio (negative : Bool) (num den : Nat) : Double :=
  let top := floorLog 2 num den ((num.log2 : Int) - (den.log2 : Int))
  let e := if top - 52 < leastExponent then leastExponent else top - 52
  let m := roundDiv (num * Nat.pow 2 (-e).toNat) (den * Nat.pow 2 e.toNat)
  let (m, e) := if m = Nat.pow 2 precision then (Nat.pow 2 (precision - 1), e + 1) else (m, e)
  if greatestExponent < e then .infinite negative else .finite negative m e

/-- The number nearest to `n * 10 ^ e`. -/
def ofDecimal (negative : Bool) (n : Nat) (e : Int) : Double :=
  if n = 0 then zero negative
  else
    let digits : Int := (Text.Decimal.ofNat n).length
    if 400 < digits + e then .infinite negative
    else if digits + e < -400 then zero negative
    else
      let (num, den) := ratio 10 n e
      ofRatio negative num den

/-- The integer that the number is. -/
def integral? : Double → Option Int
  | .finite negative m e =>
    let (num, den) := ratio 2 m e
    if num % den = 0 then some (if negative then -((num / den : Nat) : Int) else (num / den : Nat))
    else none
  | _ => none

def isNegative : Double → Bool
  | .nan => false
  | .infinite negative => negative
  | .finite negative m _ => negative && m != 0

/-- The decimal numbers with `digits` digits around a fraction below `10 ^ (top + 1)`, the nearer
one first, and their common exponent. -/
def neighbours (num den : Nat) (top : Int) (digits : Nat) : List Nat × Int :=
  let e := top + 1 - digits
  let num := num * Nat.pow 10 (-e).toNat
  let den := den * Nat.pow 10 e.toNat
  let low := num / den
  (if roundDiv num den = low then [low, low + 1] else [low + 1, low], e)

/-- The shortest decimal number that reads back as `m * 2 ^ e`, and of several the nearest one: its
digits and its exponent. -/
def shortest (m : Nat) (e : Int) : Nat × Int :=
  let (num, den) := ratio 2 m e
  let top := floorLog 10 num den
    ((Text.Decimal.ofNat num).length - (Text.Decimal.ofNat den).length : Int)
  let found := (List.range 17).findSome? fun k =>
    let (ns, exponent) := neighbours num den top (k + 1)
    (ns.find? fun n => ofDecimal false n exponent = .finite false m e).map fun n => (n, exponent)
  found.getD (roundDiv num den, 0)

/-- Digits with their point behind the first `places` of them. -/
def positional (digits : List Char) (places : Int) : List Char :=
  let zeros (n : Int) : List Char := List.replicate n.toNat '0'
  if places ≤ 0 then '0' :: '.' :: zeros (-places) ++ digits
  else if (digits.length : Int) ≤ places then digits ++ zeros (places - digits.length) ++ ['.', '0']
  else digits.take places.toNat ++ '.' :: digits.drop places.toNat

/-- Digits with their point behind the first of them, and the exponent, which has two digits at
least. -/
def scientific (digits : List Char) (exponent : Int) : List Char :=
  let power := Text.Decimal.ofNat exponent.natAbs
  digits.take 1 ++ (if digits.length ≤ 1 then [] else '.' :: digits.drop 1) ++
    'e' :: (if exponent < 0 then '-' else '+') ::
    (if power.length < 2 then '0' :: power else power)

/-- How a positive number is written: with an exponent if it is below `10 ^ -4` or not below
`10 ^ 16`. -/
def magnitude (m : Nat) (e : Int) : List Char :=
  if m = 0 then ['0', '.', '0']
  else
    let (n, exponent) := shortest m e
    let digits := Text.Decimal.ofNat n
    let places := exponent + digits.length
    let digits := (digits.reverse.dropWhile (· == '0')).reverse
    if -4 < places && places ≤ 16 then positional digits places
    else scientific digits (places - 1)

def text (x : Double) : List Char :=
  let sign (negative : Bool) : List Char := if negative then ['-'] else []
  match x with
  | .nan => ['n', 'a', 'n']
  | .infinite negative => sign negative ++ ['i', 'n', 'f']
  | .finite negative m e => sign negative ++ magnitude m e

end Double

end TemplateLint
