import QuerySchema.Text.Hex

/-!
Reading bytes as UTF-8.

`Utf8.decode` accepts the well-formed sequences only: each character in its shortest form, no
halves of pairs, nothing above U+10FFFF. The first byte of a sequence says how many bytes follow it
and narrows the range of the second; that range alone keeps out long forms, halves and large values.

Bytes are read one at a time. A fault covers the bytes of the sequence that were still good, so it
ends in front of the byte that does not continue it.
-/

namespace QuerySchema.Text.Utf8

/-- What is wrong with a sequence of bytes. -/
inductive Reason where
  /-- No sequence starts with this byte. -/
  | invalidStart
  /-- The byte after these does not go on with the sequence. -/
  | invalidContinuation
  /-- The bytes end inside the sequence. -/
  | truncated
  deriving DecidableEq, Repr

/-- The wording of a reason. -/
def Reason.text : Reason → String
  | .invalidStart => "invalid start byte"
  | .invalidContinuation => "invalid continuation byte"
  | .truncated => "unexpected end of data"

/-- A fault: the position and the value of the first byte, and how many bytes it covers. -/
structure Fault where
  reason : Reason
  position : Nat
  byte : UInt8
  length : Nat
  deriving DecidableEq, Repr

/-- What is said about a fault. -/
def Fault.message (fault : Fault) : String :=
  "'utf-8' codec can't decode " ++
    (if fault.length = 1 then
      "byte 0x" ++ String.ofList (hexDigits 2 fault.byte.toNat) ++ " in position " ++
        toString fault.position
    else
      "bytes in position " ++ toString fault.position ++ "-" ++
        toString (fault.position + fault.length - 1)) ++
    ": " ++ fault.reason.text

/-- A sequence of which bytes are still to come. -/
structure Sequence where
  /-- The position and the value of its first byte. -/
  position : Nat
  first : UInt8
  /-- How many bytes were read. -/
  length : Nat
  /-- How many bytes are to come after the next. -/
  further : Nat
  /-- The range of the next byte. -/
  low : Nat
  high : Nat
  /-- The value of the bits that were read. -/
  value : Nat
  deriving Repr

/-- The sequence that a byte above U+007F starts. -/
def start? (position : Nat) (byte : UInt8) : Option Sequence :=
  let n := byte.toNat
  let starts (further low high value : Nat) : Option Sequence :=
    some ⟨position, byte, 1, further, low, high, value⟩
  if n < 0xC2 then none
  else if n < 0xE0 then starts 0 0x80 0xBF (n - 0xC0)
  else if n = 0xE0 then starts 1 0xA0 0xBF 0
  else if n = 0xED then starts 1 0x80 0x9F 0xD
  else if n < 0xF0 then starts 1 0x80 0xBF (n - 0xE0)
  else if n = 0xF0 then starts 2 0x90 0xBF 0
  else if n < 0xF4 then starts 2 0x80 0xBF (n - 0xF0)
  else if n = 0xF4 then starts 2 0x80 0x8F 4
  else none

/-- A sequence as a fault. -/
def Sequence.fault (s : Sequence) (reason : Reason) : Fault :=
  ⟨reason, s.position, s.first, s.length⟩

/-- Decodes bytes from a position on, inside a sequence or not; `done` holds the characters before
it, the last one first. -/
def decodeFrom (position : Nat) (done : List Char) :
    Option Sequence → List UInt8 → Except Fault (List Char)
  | none, [] => .ok done.reverse
  | some s, [] => .error (s.fault .truncated)
  | none, byte :: rest =>
    if byte.toNat < 0x80 then
      decodeFrom (position + 1) (Char.ofNat byte.toNat :: done) none rest
    else
      match start? position byte with
      | some s => decodeFrom (position + 1) done (some s) rest
      | none => .error ⟨.invalidStart, position, byte, 1⟩
  | some s, byte :: rest =>
    let n := byte.toNat
    let value := s.value * 0x40 + (n - 0x80)
    if n < s.low || s.high < n then .error (s.fault .invalidContinuation)
    else
      match s.further with
      | 0 => decodeFrom (position + 1) (Char.ofNat value :: done) none rest
      | further + 1 =>
        decodeFrom (position + 1) done
          (some ⟨s.position, s.first, s.length + 1, further, 0x80, 0xBF, value⟩) rest

/-- The characters that bytes stand for. -/
def decode (bytes : List UInt8) : Except Fault (List Char) := decodeFrom 0 [] none bytes

end QuerySchema.Text.Utf8
