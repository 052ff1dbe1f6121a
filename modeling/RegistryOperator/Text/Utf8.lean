/-! Text in UTF-8. -/

namespace RegistryOperator.Utf8

/-- Where bytes stop being UTF-8. -/
inductive Fault
  /-- The bytes from `start` on, as many as `length`, begin no character. -/
  | invalid (start length : Nat)
  /-- The bytes end within the character that begins at `start`. -/
  | incomplete (start : Nat)
deriving DecidableEq, Repr

def Fault.message : Fault → String
  | .invalid start length => s!"invalid utf-8 sequence of {length} bytes from index {start}"
  | .incomplete start => s!"incomplete utf-8 byte sequence from index {start}"

/-- What a first byte says about its character: the number of the bytes that follow, the bits it
holds, and the range of the byte after it. -/
structure Lead where
  follow : Nat
  bits : Nat
  low : Nat := 0x80
  high : Nat := 0xbf

/-- The lead of a character of two bytes or more. -/
def lead? (b : Nat) : Option Lead :=
  if 0xc2 ≤ b ∧ b ≤ 0xdf then some { follow := 1, bits := b - 0xc0 }
  else if b = 0xe0 then some { follow := 2, bits := 0, low := 0xa0 }
  else if b = 0xed then some { follow := 2, bits := 0xd, high := 0x9f }
  else if 0xe1 ≤ b ∧ b ≤ 0xef then some { follow := 2, bits := b - 0xe0 }
  else if b = 0xf0 then some { follow := 3, bits := 0, low := 0x90 }
  else if b = 0xf4 then some { follow := 3, bits := 4, high := 0x8f }
  else if 0xf1 ≤ b ∧ b ≤ 0xf3 then some { follow := 3, bits := b - 0xf0 }
  else none

/-- Reads the bytes after the first one of a character that begins at `start`, `done` bytes of it
being read. -/
def readRest (start : Nat) : Nat → Nat → Nat → Nat → Nat → List UInt8 →
    Except Fault (Nat × List UInt8)
  | 0, _, value, _, _, bytes => .ok (value, bytes)
  | _ + 1, _, _, _, _, [] => .error (.incomplete start)
  | n + 1, done, value, low, high, b :: bytes =>
    if low ≤ b.toNat ∧ b.toNat ≤ high then
      readRest start n (done + 1) (value * 64 + (b.toNat - 0x80)) 0x80 0xbf bytes
    else .error (.invalid start done)

/-- Reads one character that begins at `start`. -/
def readChar (start : Nat) (b : UInt8) (bytes : List UInt8) :
    Except Fault (Char × Nat × List UInt8) :=
  if b.toNat < 0x80 then .ok (Char.ofNat b.toNat, 1, bytes)
  else
    match lead? b.toNat with
    | none => .error (.invalid start 1)
    | some l =>
      match readRest start l.follow 1 l.bits l.low l.high bytes with
      | .error fault => .error fault
      | .ok (value, rest) => .ok (Char.ofNat value, 1 + l.follow, rest)

/-- Reads characters, at most `fuel` of them, that begin at `start`. -/
def readChars : Nat → Nat → List UInt8 → Except Fault (List Char)
  | 0, _, _ => .ok []
  | _ + 1, _, [] => .ok []
  | fuel + 1, start, b :: bytes =>
    match readChar start b bytes with
    | .error fault => .error fault
    | .ok (c, size, rest) => (readChars fuel (start + size) rest).map (c :: ·)

/-- The text that bytes hold. There is a character for each byte at most. -/
def decode (bytes : List UInt8) : Except Fault String :=
  (readChars bytes.length 0 bytes).map String.ofList

end RegistryOperator.Utf8
