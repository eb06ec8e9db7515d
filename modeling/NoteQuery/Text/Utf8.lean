import NoteQuery.Text.Digit

/-!
# UTF-8 faults

Why bytes are no UTF-8 text. Each leading byte says how many bytes follow it and between
which bounds the first of them lies, so a fault is known at the first byte that no text can
have there. A fault covers the bytes of one character that have been read before it.
-/
namespace NoteQuery.Utf8

inductive Cause where
  | leadingByte
  | followingByte
  | endOfBytes
  deriving DecidableEq, Repr

/-- The bytes at fault: their place, how many they are, and the first of them. -/
structure Fault where
  cause : Cause
  start : Nat
  size : Nat
  first : Nat
  deriving DecidableEq, Repr

/-- A character that has been read in part: its bytes so far, and what is asked of those to
come. -/
structure Partial where
  first : Nat
  size : Nat
  owed : Nat
  low : Nat
  high : Nat

/-- What a leading byte beyond ASCII asks for. -/
def lead? (b : Nat) : Option Partial :=
  if 0xc2 ≤ b && b ≤ 0xdf then some ⟨b, 1, 1, 0x80, 0xbf⟩
  else if b == 0xe0 then some ⟨b, 1, 2, 0xa0, 0xbf⟩
  else if b == 0xed then some ⟨b, 1, 2, 0x80, 0x9f⟩
  else if 0xe1 ≤ b && b ≤ 0xef then some ⟨b, 1, 2, 0x80, 0xbf⟩
  else if b == 0xf0 then some ⟨b, 1, 3, 0x90, 0xbf⟩
  else if 0xf1 ≤ b && b ≤ 0xf3 then some ⟨b, 1, 3, 0x80, 0xbf⟩
  else if b == 0xf4 then some ⟨b, 1, 3, 0x80, 0x8f⟩
  else none

/-- What a character asks for after one more byte; nothing if that was the last. -/
def Partial.next? (p : Partial) : Option Partial :=
  if p.owed ≤ 1 then none else some ⟨p.first, p.size + 1, p.owed - 1, 0x80, 0xbf⟩

def Partial.fault (p : Partial) (cause : Cause) (stop : Nat) : Fault :=
  ⟨cause, stop - p.size, p.size, p.first⟩

/-- The first fault in bytes from a place on, perhaps in the middle of a character. -/
def faultFrom (place : Nat) : Option Partial → List UInt8 → Option Fault
  | none, [] => none
  | some p, [] => some (p.fault .endOfBytes place)
  | none, b :: rest =>
    let b := b.toNat
    if b < 0x80 then faultFrom (place + 1) none rest
    else
      match lead? b with
      | some p => faultFrom (place + 1) (some p) rest
      | none => some ⟨.leadingByte, place, 1, b⟩
  | some p, b :: rest =>
    let b := b.toNat
    if p.low ≤ b && b ≤ p.high then faultFrom (place + 1) p.next? rest
    else some (p.fault .followingByte place)

def fault? (bytes : List UInt8) : Option Fault := faultFrom 0 none bytes

def Cause.text : Cause → Text
  | leadingByte => "invalid start byte".toList
  | followingByte => "invalid continuation byte".toList
  | endOfBytes => "unexpected end of data".toList

def Fault.message (f : Fault) : Text :=
  "'utf-8' codec can't decode ".toList
    ++ (if f.size == 1 then
        "byte 0x".toList ++ Text.ofNatHex 2 f.first ++ " in position ".toList ++ Text.ofNat f.start
      else
        "bytes in position ".toList ++ Text.ofNat f.start ++ ['-']
          ++ Text.ofNat (f.start + f.size - 1))
    ++ [':', ' '] ++ f.cause.text

/-- Whether bytes end within the character at fault, so that it is not known as a fault
before their end. -/
def Fault.isCutOff (f : Fault) (bytes : List UInt8) : Bool :=
  f.cause == .endOfBytes
    || (f.first == 0xed && f.start + 2 == bytes.length
      && (bytes.getLast?.any fun b => 0xa0 ≤ b.toNat && b.toNat ≤ 0xbf))

/-- A fault in bytes that are read in pieces: a character that is cut off at the end makes a
piece of its own, in which positions count from zero. -/
def Fault.inPieces (f : Fault) (bytes : List UInt8) : Fault :=
  if f.isCutOff bytes then { f with start := 0 } else f

end NoteQuery.Utf8
