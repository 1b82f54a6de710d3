import MarkdownReview.Text.Quoted
/-!
Reading bytes as text. Decoding is strict: the first sequence that no character can start ends it
with the place and the bytes of the longest part that could still have become a character.
-/

namespace MarkdownReview.Text.Utf8

inductive Cause
  | invalidStart
  | invalidContinuation
  | unexpectedEnd
deriving DecidableEq, Repr

def Cause.message : Cause → String
  | .invalidStart => "invalid start byte"
  | .invalidContinuation => "invalid continuation byte"
  | .unexpectedEnd => "unexpected end of data"

structure Fault where
  position : Nat
  length : Nat
  lead : UInt8
  cause : Cause
deriving DecidableEq, Repr

def Fault.message (fault : Fault) : String :=
  let place :=
    if fault.length = 1 then
      let digits := String.ofList (hexDigits 2 fault.lead.toNat)
      s!"byte 0x{digits} in position {fault.position}"
    else s!"bytes in position {fault.position}-{fault.position + fault.length - 1}"
  s!"'utf-8' codec can't decode {place}: {fault.cause.message}"

/-- The bounds of each byte that has to follow a lead byte of more than one byte. -/
def followers (lead : Nat) : Option (List (Nat × Nat)) :=
  let any := (0x80, 0xBF)
  if lead < 0xC2 then none
  else if lead < 0xE0 then some [any]
  else if lead = 0xE0 then some [(0xA0, 0xBF), any]
  else if lead = 0xED then some [(0x80, 0x9F), any]
  else if lead < 0xF0 then some [any, any]
  else if lead = 0xF0 then some [(0x90, 0xBF), any, any]
  else if lead < 0xF4 then some [any, any, any]
  else if lead = 0xF4 then some [(0x80, 0x8F), any, any]
  else none

def leadBits (lead : Nat) : Nat → Nat
  | 1 => lead % 0x20
  | 2 => lead % 0x10
  | _ => lead % 0x08

structure Reading where
  code : Nat
  length : Nat
deriving DecidableEq

def readFollowers : List (Nat × Nat) → Reading → List UInt8 → Except (Cause × Nat) Reading
  | [], reading, _ => .ok reading
  | _ :: _, reading, [] => .error (.unexpectedEnd, reading.length)
  | (lo, hi) :: bounds, reading, byte :: rest =>
    if lo ≤ byte.toNat ∧ byte.toNat ≤ hi then
      readFollowers bounds ⟨reading.code * 0x40 + byte.toNat % 0x40, reading.length + 1⟩ rest
    else .error (.invalidContinuation, reading.length)

def readChar (lead : UInt8) (rest : List UInt8) : Except (Cause × Nat) Reading :=
  if lead.toNat < 0x80 then .ok ⟨lead.toNat, 1⟩
  else
    match followers lead.toNat with
    | none => .error (.invalidStart, 1)
    | some bounds => readFollowers bounds ⟨leadBits lead.toNat bounds.length, 1⟩ rest

/-- Decodes from `position` on; the next `skip` bytes belong to a character already read. -/
def decodeFrom : (skip position : Nat) → List UInt8 → Except Fault Text
  | _, _, [] => .ok []
  | skip + 1, position, _ :: rest => decodeFrom skip (position + 1) rest
  | 0, position, lead :: rest =>
    match readChar lead rest with
    | .error (cause, length) => .error ⟨position, length, lead, cause⟩
    | .ok reading =>
      match decodeFrom (reading.length - 1) (position + 1) rest with
      | .error fault => .error fault
      | .ok text => .ok (Char.ofNat reading.code :: text)

def decode (bytes : List UInt8) : Except Fault Text := decodeFrom 0 0 bytes

def encodeChar (c : Char) : List UInt8 := String.utf8EncodeChar c

def encode (text : Text) : List UInt8 := text.flatMap encodeChar

end MarkdownReview.Text.Utf8

/-!
Line ends of files. A carriage return, with or without a newline after it, counts as a newline.
-/

namespace MarkdownReview.Text

def unifyNewlines : Text → Text
  | '\r' :: '\n' :: rest => '\n' :: unifyNewlines rest
  | '\r' :: rest => '\n' :: unifyNewlines rest
  | c :: rest => c :: unifyNewlines rest
  | [] => []

end MarkdownReview.Text
