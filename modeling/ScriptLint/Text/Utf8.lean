/-! # UTF-8

Strict decoding of files. A decoder reads one byte at a time and remembers an unfinished character
as `Pending`: the range that the next byte must lie in excludes overlong forms, surrogates and codes
above U+10FFFF at the first byte that gives them away. A failure names the bytes of the longest
beginning of a character that was still possible.
-/

namespace ScriptLint.Text.Utf8

inductive Reason where
  | invalidStart
  | invalidContinuation
  | unexpectedEnd
  deriving DecidableEq, Repr

/-- The first place at which bytes are not UTF-8. -/
structure Fault where
  /-- The position of the first byte of the offending character. -/
  position : Nat
  /-- The number of bytes that belong to it. -/
  length : Nat
  byte : UInt8
  reason : Reason
  deriving DecidableEq, Repr

def Reason.message : Reason → String
  | .invalidStart => "invalid start byte"
  | .invalidContinuation => "invalid continuation byte"
  | .unexpectedEnd => "unexpected end of data"

def byteText (byte : UInt8) : String :=
  let digits := Nat.toDigits 16 byte.toNat
  String.ofList (if digits.length < 2 then '0' :: digits else digits)

/-- The wording of a fault: one byte is shown, several are located by their first and last. -/
def Fault.message (fault : Fault) : String :=
  let place :=
    if fault.length = 1 then
      "byte 0x" ++ byteText fault.byte ++ " in position " ++ toString fault.position
    else
      "bytes in position " ++ toString fault.position ++ "-" ++
        toString (fault.position + fault.length - 1)
  "'utf-8' codec can't decode " ++ place ++ ": " ++ fault.reason.message

/-- An unfinished character. -/
structure Pending where
  byte : UInt8
  /-- The number of bytes read so far. -/
  seen : Nat
  /-- The number of bytes still to come, less one. -/
  more : Nat
  /-- The least byte that may come next. -/
  low : UInt8
  /-- The greatest byte that may come next. -/
  high : UInt8
  bits : Nat
  deriving DecidableEq, Repr

/-- What a byte begins when no character is unfinished. -/
inductive Lead where
  | single
  | several (pending : Pending)
  | bad
  deriving DecidableEq, Repr

/-- Classify a byte that stands where a character may begin. -/
def lead (byte : UInt8) : Lead :=
  if byte < 0x80 then .single
  else if byte < 0xC2 then .bad
  else if byte < 0xE0 then .several ⟨byte, 1, 0, 0x80, 0xBF, byte.toNat - 0xC0⟩
  else if byte < 0xF0 then
    .several ⟨byte, 1, 1, if byte = 0xE0 then 0xA0 else 0x80, if byte = 0xED then 0x9F else 0xBF,
      byte.toNat - 0xE0⟩
  else if byte < 0xF5 then
    .several ⟨byte, 1, 2, if byte = 0xF0 then 0x90 else 0x80, if byte = 0xF4 then 0x8F else 0xBF,
      byte.toNat - 0xF0⟩
  else .bad

/-- The bits of an unfinished character after one more byte. -/
def Pending.extend (pending : Pending) (byte : UInt8) : Nat :=
  pending.bits * 64 + (byte.toNat - 0x80)

/-- The fault of an unfinished character whose next byte would stand at `position`. -/
def Pending.fault (pending : Pending) (position : Nat) (reason : Reason) : Fault :=
  ⟨position - pending.seen, pending.seen, pending.byte, reason⟩

/-- Decode from a position on, inside an unfinished character if there is one. -/
def decodeFrom (position : Nat) : Option Pending → List UInt8 → Except Fault (List Char)
  | none, [] => .ok []
  | some pending, [] => .error (pending.fault position .unexpectedEnd)
  | none, byte :: rest =>
    match lead byte with
    | .single => (decodeFrom (position + 1) none rest).map (Char.ofNat byte.toNat :: ·)
    | .several pending => decodeFrom (position + 1) (some pending) rest
    | .bad => .error ⟨position, 1, byte, .invalidStart⟩
  | some pending, byte :: rest =>
    if pending.low ≤ byte ∧ byte ≤ pending.high then
      match pending.more with
      | 0 => (decodeFrom (position + 1) none rest).map (Char.ofNat (pending.extend byte) :: ·)
      | more + 1 =>
        decodeFrom (position + 1)
          (some ⟨pending.byte, pending.seen + 1, more, 0x80, 0xBF, pending.extend byte⟩) rest
    else .error (pending.fault position .invalidContinuation)

def decode (bytes : List UInt8) : Except Fault String :=
  (decodeFrom 0 none bytes).map String.ofList

/-- The bytes without one leading byte order mark. -/
def withoutMark : List UInt8 → List UInt8
  | 0xEF :: 0xBB :: 0xBF :: rest => rest
  | bytes => bytes

def encode (text : String) : List UInt8 :=
  text.toList.flatMap String.utf8EncodeChar

end ScriptLint.Text.Utf8
