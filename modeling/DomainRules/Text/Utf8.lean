/-! UTF-8. Decoding is strict, one byte at a time; a fault names the bytes that begin no character. -/

namespace DomainRules.Text.Utf8

def encode (text : String) : List UInt8 := text.toList.flatMap String.utf8EncodeChar

inductive Reason
  | start
  | continuation
  | ended
  deriving DecidableEq

def Reason.message : Reason → String
  | .start => "invalid start byte"
  | .continuation => "invalid continuation byte"
  | .ended => "unexpected end of data"

/-- `length` bytes from `position` on cannot be read; `first` is the first of them. -/
structure Fault where
  position : Nat
  length : Nat
  first : UInt8
  reason : Reason
  deriving DecidableEq

/-- A character that has begun: its bits so far, how many bytes it has taken and still wants, and the bounds
of the next of them. -/
structure Pending where
  first : UInt8
  bits : Nat
  taken : Nat
  wanted : Nat
  low : UInt8
  high : UInt8

/-- The first byte of a character of several bytes. It bounds the second byte so that no character has two
encodings and no surrogate has one. -/
def Pending.ofFirst? (byte : UInt8) : Option Pending :=
  if 0xC2 ≤ byte && byte ≤ 0xDF then some ⟨byte, byte.toNat - 0xC0, 1, 1, 0x80, 0xBF⟩
  else if 0xE0 ≤ byte && byte ≤ 0xEF then
    some ⟨byte, byte.toNat - 0xE0, 1, 2, if byte == 0xE0 then 0xA0 else 0x80,
      if byte == 0xED then 0x9F else 0xBF⟩
  else if 0xF0 ≤ byte && byte ≤ 0xF4 then
    some ⟨byte, byte.toNat - 0xF0, 1, 3, if byte == 0xF0 then 0x90 else 0x80,
      if byte == 0xF4 then 0x8F else 0xBF⟩
  else none

def Pending.extend (pending : Pending) (byte : UInt8) : Pending :=
  { pending with
    bits := pending.bits * 64 + (byte.toNat - 0x80)
    taken := pending.taken + 1
    wanted := pending.wanted - 1
    low := 0x80
    high := 0xBF }

/-- `position` is where the character at hand began and `done` holds the earlier ones, the last first. -/
def decodeFrom (position : Nat) (done : List Char) :
    Option Pending → List UInt8 → Except Fault (List Char)
  | none, [] => .ok done.reverse
  | some pending, [] => .error ⟨position, pending.taken, pending.first, .ended⟩
  | none, byte :: bytes =>
    if byte < 0x80 then decodeFrom (position + 1) (Char.ofNat byte.toNat :: done) none bytes
    else match Pending.ofFirst? byte with
      | some pending => decodeFrom position done (some pending) bytes
      | none => .error ⟨position, 1, byte, .start⟩
  | some pending, byte :: bytes =>
    if pending.low ≤ byte && byte ≤ pending.high then
      let longer := pending.extend byte
      if longer.wanted = 0 then
        decodeFrom (position + longer.taken) (Char.ofNat longer.bits :: done) none bytes
      else decodeFrom position done (some longer) bytes
    else .error ⟨position, pending.taken, pending.first, .continuation⟩

def decode (bytes : List UInt8) : Except Fault String :=
  String.ofList <$> decodeFrom 0 [] none bytes

end DomainRules.Text.Utf8
