import RegisterMachine.Text.Quoted

set_option autoImplicit false
set_option relaxedAutoImplicit false

/-!
# UTF-8

Decoding of bytes, with the place and the cause of the first sequence that is not well-formed.

## Main definitions

* `RegisterMachine.Text.Utf8.Flaw` — why a byte sequence is refused.
* `RegisterMachine.Text.Utf8.decode` — the characters that bytes denote, or the first flaw.
-/

namespace RegisterMachine.Text.Utf8

/-- Why a byte sequence is refused. -/
inductive FlawKind
  | invalidStart
  | invalidContinuation
  | unexpectedEnd
  deriving DecidableEq, Repr

/-- The first refused sequence: its kind, where it starts, its first byte and how many bytes it
spans. -/
structure Flaw where
  kind : FlawKind
  position : Nat
  byte : UInt8
  length : Nat
  deriving DecidableEq, Repr

/-- The name of a kind of flaw. -/
def FlawKind.text : FlawKind → String
  | .invalidStart => "invalid start byte"
  | .invalidContinuation => "invalid continuation byte"
  | .unexpectedEnd => "unexpected end of data"

/-- The message about a flaw: it names the byte, or the span if there are several bytes. -/
def Flaw.message (flaw : Flaw) : String :=
  let place :=
    if flaw.length = 1 then
      "byte 0x" ++ String.ofList (hexPadded 2 flaw.byte.toNat) ++ " in position "
        ++ toString flaw.position
    else
      "bytes in position " ++ toString flaw.position ++ "-"
        ++ toString (flaw.position + flaw.length - 1)
  "'utf-8' codec can't decode " ++ place ++ ": " ++ flaw.kind.text

/-- Whether a byte continues a sequence. -/
def isContinuation (b : UInt8) : Bool :=
  0x80 ≤ b && b < 0xC0

/-- How many bytes follow a leading byte, if it is one. -/
def followers? (b : UInt8) : Option Nat :=
  if b < 0x80 then some 0
  else if b < 0xC2 then none
  else if b < 0xE0 then some 1
  else if b < 0xF0 then some 2
  else if b < 0xF5 then some 3
  else none

/-- Whether a byte may come second after a leading byte: overlong forms, surrogates and numbers
beyond the last code point are excluded here. -/
def isSecond (lead b : UInt8) : Bool :=
  isContinuation b &&
    !(lead == 0xE0 && b < 0xA0) && !(lead == 0xED && 0xA0 ≤ b) &&
    !(lead == 0xF0 && b < 0x90) && !(lead == 0xF4 && 0x90 ≤ b)

/-- The bits that a leading byte with some followers contributes. -/
def leadBits (followers : Nat) (b : UInt8) : Nat :=
  match followers with
  | 0 => b.toNat
  | 1 => b.toNat % 0x20
  | 2 => b.toNat % 0x10
  | _ => b.toNat % 0x08

/-- Reads the bytes after a leading byte. `accepts` tells which byte may come next, `seen` counts
the bytes of the sequence so far and `bits` holds the number so far. -/
def readFollowers (accepts : UInt8 → Bool) (seen bits : Nat) :
    Nat → List UInt8 → Except (FlawKind × Nat) Char
  | 0, _ => .ok (Char.ofNat bits)
  | _ + 1, [] => .error (.unexpectedEnd, seen)
  | n + 1, b :: rest =>
    if accepts b then readFollowers isContinuation (seen + 1) (bits * 0x40 + b.toNat % 0x40) n rest
    else .error (.invalidContinuation, seen)

/-- Decodes the bytes from a position on; `skip` of them belong to a sequence already read. The
characters read so far are in `done`, the last one first. -/
def decodeFrom (position skip : Nat) (done : List Char) : List UInt8 → Except Flaw (List Char)
  | [] => .ok done.reverse
  | b :: rest =>
    match skip with
    | skip + 1 => decodeFrom (position + 1) skip done rest
    | 0 =>
      match followers? b with
      | none => .error ⟨.invalidStart, position, b, 1⟩
      | some n =>
        match readFollowers (isSecond b) 1 (leadBits n b) n rest with
        | .ok c => decodeFrom (position + 1) n (c :: done) rest
        | .error (kind, length) => .error ⟨kind, position, b, length⟩

/-- The characters that bytes denote, or the first flaw. -/
def decode (bytes : List UInt8) : Except Flaw (List Char) :=
  decodeFrom 0 0 [] bytes

end RegisterMachine.Text.Utf8
