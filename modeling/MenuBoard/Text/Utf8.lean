/-!
UTF-8. `decode` turns bytes into characters, or names the first bytes that are none: what is wrong with them, where they are
and which they are. It reads byte after byte; between two characters nothing is pending, inside one the bytes read so far are.
-/

namespace MenuBoard.Text.Utf8

/-- what is wrong with bytes -/
inductive Fault where
  | badStart
  | badContinuation
  | cutOff
  deriving DecidableEq, Repr

def Fault.message : Fault → String
  | .badStart => "invalid start byte"
  | .badContinuation => "invalid continuation byte"
  | .cutOff => "unexpected end of data"

/-- bytes that are no character, with their position -/
structure Error where
  fault : Fault
  position : Nat
  bytes : List UInt8
  deriving DecidableEq, Repr

/-- a byte in two hexadecimal digits -/
def hexByte (b : UInt8) : String :=
  let digits := Nat.toDigits 16 b.toNat
  String.ofList (List.replicate (2 - digits.length) '0' ++ digits)

/-- The wording of a fault: one byte is shown, of several only the first and last position. -/
def Error.message (e : Error) : String :=
  match e.bytes with
  | [b] => s!"'utf-8' codec can't decode byte 0x{hexByte b} in position {e.position}: {e.fault.message}"
  | bytes =>
    let last := e.position + (bytes.length - 1)
    s!"'utf-8' codec can't decode bytes in position {e.position}-{last}: {e.fault.message}"

/-- A character of which some bytes are read, the latest first. `owed` bytes are to follow the next one, which has to lie
between `low` and `high`. -/
structure Pending where
  code : Nat
  read : List UInt8
  owed : Nat
  low : UInt8 := 0x80
  high : UInt8 := 0xbf
  deriving DecidableEq, Repr

/-- The first byte of a character of several bytes. The range of the second byte keeps out characters that have a shorter
form, halves of pairs, and numbers beyond the last character. -/
def Pending.ofFirst? (b : UInt8) : Option Pending :=
  if b < 0xc2 then none
  else if b < 0xe0 then some { code := (b - 0xc0).toNat, read := [b], owed := 0 }
  else if b = 0xe0 then some { code := 0, read := [b], owed := 1, low := 0xa0 }
  else if b = 0xed then some { code := 0xd, read := [b], owed := 1, high := 0x9f }
  else if b < 0xf0 then some { code := (b - 0xe0).toNat, read := [b], owed := 1 }
  else if b = 0xf0 then some { code := 0, read := [b], owed := 2, low := 0x90 }
  else if b < 0xf4 then some { code := (b - 0xf0).toNat, read := [b], owed := 2 }
  else if b = 0xf4 then some { code := 4, read := [b], owed := 2, high := 0x8f }
  else none

/-- the bytes of a character that goes wrong before `position` -/
def Pending.fail {α : Type} (p : Pending) (fault : Fault) (position : Nat) : Except Error α :=
  .error ⟨fault, position - p.read.length, p.read.reverse⟩

/-- the characters of the bytes from `position` on -/
def decodeFrom : (position : Nat) → Option Pending → List UInt8 → Except Error (List Char)
  | _, none, [] => .ok []
  | position, some p, [] => p.fail .cutOff position
  | position, none, b :: rest =>
    if b < 0x80 then (decodeFrom (position + 1) none rest).map (Char.ofNat b.toNat :: ·)
    else match Pending.ofFirst? b with
      | some p => decodeFrom (position + 1) (some p) rest
      | none => .error ⟨.badStart, position, [b]⟩
  | position, some p, b :: rest =>
    if b < p.low ∨ p.high < b then p.fail .badContinuation position
    else
      let code := p.code * 64 + (b - 0x80).toNat
      match p.owed with
      | 0 => (decodeFrom (position + 1) none rest).map (Char.ofNat code :: ·)
      | owed + 1 => decodeFrom (position + 1) (some { code, read := b :: p.read, owed }) rest

def decode (bytes : List UInt8) : Except Error (List Char) := decodeFrom 0 none bytes

end MenuBoard.Text.Utf8
