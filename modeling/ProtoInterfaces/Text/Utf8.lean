import ProtoInterfaces.Text.Basic

/-!
# UTF-8

Strict decoding of bytes. The first sequence that is not well formed is reported with its
cause: a byte that begins no sequence, a byte that does not continue the sequence before it, or
an end before the sequence is complete. The reported span is the part of the sequence that is
well formed so far, or the single byte that begins none.
-/
namespace ProtoInterfaces.Utf8

/-- Why bytes cannot be decoded. -/
inductive Cause where
  | invalidStart
  | invalidContinuation
  | unexpectedEnd
  deriving DecidableEq, Repr

/-- The first ill-formed sequence of some bytes. -/
structure Fault where
  /-- Offset of its first byte. -/
  position : Nat
  /-- Number of bytes in its span. -/
  length : Nat
  /-- Its first byte. -/
  lead : UInt8
  /-- What is wrong with it. -/
  cause : Cause
  deriving DecidableEq, Repr

/-- The range of bytes that may stand at one place, both ends included. -/
abbrev ByteRange := Nat × Nat

/-- The bytes that continue a sequence where nothing more is asked of them. -/
def continuation : ByteRange := (0x80, 0xBF)

/-- What a leading byte contributes to the code point, and the ranges of the bytes that have to
follow it; nothing if no sequence begins with it. -/
def leading? (byte : Nat) : Option (Nat × List ByteRange) :=
  if byte < 0x80 then some (byte, [])
  else if byte < 0xC2 then none
  else if byte < 0xE0 then some (byte - 0xC0, [continuation])
  else if byte = 0xE0 then some (0x0, [(0xA0, 0xBF), continuation])
  else if byte = 0xED then some (0xD, [(0x80, 0x9F), continuation])
  else if byte < 0xF0 then some (byte - 0xE0, [continuation, continuation])
  else if byte = 0xF0 then some (0x0, [(0x90, 0xBF), continuation, continuation])
  else if byte < 0xF4 then some (byte - 0xF0, [continuation, continuation, continuation])
  else if byte = 0xF4 then some (0x4, [(0x80, 0x8F), continuation, continuation])
  else none

/-- The code point that the bytes after a leading byte complete, or how many of them are well
formed and why the next one is not. -/
def complete : List ByteRange → (value matched : Nat) → List UInt8 → Except (Nat × Cause) Nat
  | [], value, _, _ => .ok value
  | _ :: _, _, matched, [] => .error (matched, .unexpectedEnd)
  | range :: ranges, value, matched, byte :: bytes =>
    if range.1 ≤ byte.toNat && byte.toNat ≤ range.2 then
      complete ranges (value * 64 + byte.toNat % 64) (matched + 1) bytes
    else .error (matched, .invalidContinuation)

/-- The character that a byte and those after it encode, and how many of those after it belong
to it. -/
def decodeCharacter (position : Nat) (lead : UInt8) (bytes : List UInt8) :
    Except Fault (Char × Nat) :=
  match leading? lead.toNat with
  | none => .error ⟨position, 1, lead, .invalidStart⟩
  | some (value, ranges) =>
    match complete ranges value 0 bytes with
    | .ok code => .ok (Char.ofNat code, ranges.length)
    | .error (matched, cause) => .error ⟨position, matched + 1, lead, cause⟩

/-- The text of the bytes from a position on, while `pending` bytes of a decoded character are
still to be passed over. -/
def decodeFrom : (position pending : Nat) → List UInt8 → Except Fault Text
  | _, _, [] => .ok []
  | position, pending + 1, _ :: bytes => decodeFrom (position + 1) pending bytes
  | position, 0, lead :: bytes =>
    match decodeCharacter position lead bytes with
    | .error fault => .error fault
    | .ok (c, pending) =>
      match decodeFrom (position + 1) pending bytes with
      | .error fault => .error fault
      | .ok text => .ok (c :: text)

/-- The text that bytes encode. -/
def decode (bytes : List UInt8) : Except Fault Text := decodeFrom 0 0 bytes

/-- The bytes that encode a text. -/
def encode (text : Text) : List UInt8 := text.flatMap String.utf8EncodeChar

/-- The number of bytes that encode a text. -/
def size (text : Text) : Nat := (encode text).length

end ProtoInterfaces.Utf8
