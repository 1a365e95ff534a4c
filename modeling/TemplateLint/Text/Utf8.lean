import TemplateLint.Text.Quoted

/-!
Reading bytes as UTF-8, strictly: surrogates, overlong forms and truncated sequences are faults.
A fault says which bytes it is about.
-/

namespace TemplateLint.Text.Utf8

inductive Flaw where
  | badStart
  | badContinuation
  | truncated
deriving DecidableEq, Repr

def Flaw.message : Flaw → String
  | .badStart => "invalid start byte"
  | .badContinuation => "invalid continuation byte"
  | .truncated => "unexpected end of data"

/-- `length` bytes from `position` on, the first of them `lead`, are no character. -/
structure Fault where
  flaw : Flaw
  lead : UInt8
  position : Nat
  length : Nat
deriving DecidableEq, Repr

/-- Two hexadecimal digits. -/
def hexByte (b : UInt8) : String := String.ofList (Quoted.hex 2 b.toNat)

def Fault.message (f : Fault) : String :=
  let place :=
    if f.length = 1 then s!"byte 0x{hexByte f.lead} in position {f.position}"
    else s!"bytes in position {f.position}-{f.position + f.length - 1}"
  s!"'utf-8' codec can't decode {place}: {f.flaw.message}"

/-- The bytes that may follow a lead byte directly. -/
def secondRange (lead : UInt8) : UInt8 × UInt8 :=
  if lead = 0xE0 then (0xA0, 0xBF)
  else if lead = 0xED then (0x80, 0x9F)
  else if lead = 0xF0 then (0x90, 0xBF)
  else if lead = 0xF4 then (0x80, 0x8F)
  else (0x80, 0xBF)

/-- How many bytes the sequence with this lead byte has. -/
def width? (lead : UInt8) : Option Nat :=
  if lead < 0x80 then some 1
  else if 0xC2 ≤ lead && lead ≤ 0xDF then some 2
  else if 0xE0 ≤ lead && lead ≤ 0xEF then some 3
  else if 0xF0 ≤ lead && lead ≤ 0xF4 then some 4
  else none

def leadBits (width : Nat) (lead : UInt8) : Nat :=
  match width with
  | 2 => lead.toNat - 0xC0
  | 3 => lead.toNat - 0xE0
  | 4 => lead.toNat - 0xF0
  | _ => lead.toNat

/-- Reads `n` continuation bytes, the first within `range`, after `seen` bytes of the sequence. -/
def tails : Nat → UInt8 × UInt8 → Nat → Nat → List UInt8 → Except (Flaw × Nat) Nat
  | 0, _, _, acc, _ => .ok acc
  | _ + 1, _, seen, _, [] => .error (.truncated, seen)
  | n + 1, range, seen, acc, b :: bs =>
    if range.1 ≤ b && b ≤ range.2 then
      tails n (0x80, 0xBF) (seen + 1) (acc * 64 + (b.toNat - 0x80)) bs
    else .error (.badContinuation, seen)

/-- The first character of the bytes and its width, or the flaw and the bytes it is about. -/
def first (lead : UInt8) (bs : List UInt8) : Except (Flaw × Nat) (Char × Nat) :=
  match width? lead with
  | none => .error (.badStart, 1)
  | some w => do
    let n ← tails (w - 1) (secondRange lead) 1 (leadBits w lead) bs
    return (Char.ofNat n, w)

/-- Characters read before the end or the first flaw, and what stopped the reading.
`skip` bytes belong to the character read last. -/
def scan : Nat → Nat → List UInt8 → List Char × Option Fault
  | _, _, [] => ([], none)
  | skip + 1, position, _ :: bs => scan skip (position + 1) bs
  | 0, position, b :: bs =>
    match first b bs with
    | .error (flaw, length) => ([], some ⟨flaw, b, position, length⟩)
    | .ok (c, w) =>
      let (cs, fault) := scan (w - 1) (position + 1) bs
      (c :: cs, fault)

def decode (bs : List UInt8) : Except Fault (List Char) :=
  match scan 0 0 bs with
  | (cs, none) => .ok cs
  | (_, some fault) => .error fault

/-- Decodes block after block. A sequence cut off at the end of a block is carried into the next
one, and positions count from the start of what is decoded together. -/
def decodeBlocks (size : Nat) : Nat → List UInt8 → List UInt8 → Except Fault (List Char)
  | 0, _, _ => .ok []
  | rounds + 1, carried, bs =>
    let block := carried ++ bs.take size
    match scan 0 0 block with
    | (cs, none) =>
      if bs.isEmpty then .ok cs else (cs ++ ·) <$> decodeBlocks size rounds [] (bs.drop size)
    | (cs, some fault) =>
      if fault.flaw = .truncated && !bs.isEmpty then
        (cs ++ ·) <$> decodeBlocks size rounds (block.drop fault.position) (bs.drop size)
      else .error fault

/-- Decodes as a reader does that goes through a file by blocks of 8192 bytes. -/
def decodeBuffered (bs : List UInt8) : Except Fault (List Char) :=
  decodeBlocks 8192 (bs.length / 8192 + 2) [] bs

def encodeChar (c : Char) : List UInt8 :=
  let n := c.toNat
  if n < 0x80 then [n.toUInt8]
  else if n < 0x800 then [(0xC0 + n / 64).toUInt8, (0x80 + n % 64).toUInt8]
  else if n < 0x10000 then
    [(0xE0 + n / 4096).toUInt8, (0x80 + n / 64 % 64).toUInt8, (0x80 + n % 64).toUInt8]
  else
    [(0xF0 + n / 262144).toUInt8, (0x80 + n / 4096 % 64).toUInt8, (0x80 + n / 64 % 64).toUInt8,
      (0x80 + n % 64).toUInt8]

def encode (cs : List Char) : List UInt8 := cs.flatMap encodeChar

end TemplateLint.Text.Utf8
