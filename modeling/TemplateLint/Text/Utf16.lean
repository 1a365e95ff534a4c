/-!
Units of sixteen bits. A character beyond them is written as two units, its halves; an escape can
name a half alone, which is no character, so a character that is never assigned holds its place. The
places are U+DD800 to U+DDFFF, in a plane without characters; a text that holds one of these itself
is taken for one that holds a half.
-/

namespace TemplateLint.Text.Utf16

def firstHigh : Nat := 0xD800
def firstLow : Nat := 0xDC00
def endOfHalves : Nat := 0xE000

def isHigh (n : Nat) : Bool := firstHigh ≤ n && n < firstLow
def isLow (n : Nat) : Bool := firstLow ≤ n && n < endOfHalves

/-- The distance from a half to the character in its place. -/
def placeOffset : Nat := 0xD0000

/-- The character with a number; a half has one in its place. -/
def charOf (n : Nat) : Char :=
  Char.ofNat (if isHigh n || isLow n then placeOffset + n else n)

/-- The half in whose place a character stands. -/
def half? (c : Char) : Option Nat :=
  let n := c.toNat - placeOffset
  if isHigh n || isLow n then some n else none

/-- Whether a text holds halves, and so is no text that can be stored. -/
def holdsHalf (s : String) : Bool := s.toList.any fun c => (half? c).isSome

/-- The character that two halves stand for. -/
def join (high low : Nat) : Char :=
  Char.ofNat (0x10000 + (high - firstHigh) * 0x400 + (low - firstLow))

/-- The units that a character is written in. -/
def units (c : Char) : List Nat :=
  let n := c.toNat
  if n < 0x10000 then [n]
  else [firstHigh + (n - 0x10000) / 0x400, firstLow + (n - 0x10000) % 0x400]

end TemplateLint.Text.Utf16
