/-
UTF-8. A byte sequence is cut into units: a character, or a flaw, which is the longest run of bytes
that begins a character but cannot be completed (one byte where no character begins). Lenient
decoding puts one replacement character for each flaw; strict decoding stops at the first.
-/

namespace ImportPlanning.Text.Utf8

inductive Flaw where
  | badStart
  | badContinuation
  | endOfData
  deriving DecidableEq, Repr

/-- The first bytes of a sequence. Both forms tell how many bytes follow the first one. -/
inductive Unit where
  | character (value : Char) (further : Nat)
  | flaw (kind : Flaw) (further : Nat)
  deriving DecidableEq, Repr

def tail? (byte : UInt8) : Option Nat :=
  if 0x80 ≤ byte && byte ≤ 0xBF then some (byte.toNat - 0x80) else none

/-- The bytes that may follow a lead byte directly; later ones are free. -/
def secondRange (lead : UInt8) : UInt8 × UInt8 :=
  if lead = 0xE0 then (0xA0, 0xBF)
  else if lead = 0xED then (0x80, 0x9F)
  else if lead = 0xF0 then (0x90, 0xBF)
  else if lead = 0xF4 then (0x80, 0x8F)
  else (0x80, 0xBF)

/-- Reads `missing` more bytes of a character whose value so far is `value`. -/
def continuation (value : Nat) : (missing read : Nat) → List UInt8 → Unit
  | 0, read, _ => .character (Char.ofNat value) read
  | _ + 1, read, [] => .flaw .endOfData read
  | missing + 1, read, byte :: rest =>
    match tail? byte with
    | some payload => continuation (64 * value + payload) missing (read + 1) rest
    | none => .flaw .badContinuation read

def afterLead (lead : UInt8) (value missing : Nat) : List UInt8 → Unit
  | [] => .flaw .endOfData 0
  | byte :: rest =>
    if (secondRange lead).1 ≤ byte && byte ≤ (secondRange lead).2 then
      continuation (64 * value + (byte.toNat - 0x80)) missing 1 rest
    else .flaw .badContinuation 0

def unitAt (lead : UInt8) (rest : List UInt8) : Unit :=
  if lead < 0x80 then .character (Char.ofNat lead.toNat) 0
  else if lead < 0xC2 then .flaw .badStart 0
  else if lead < 0xE0 then afterLead lead (lead.toNat - 0xC0) 0 rest
  else if lead < 0xF0 then afterLead lead (lead.toNat - 0xE0) 1 rest
  else if lead < 0xF5 then afterLead lead (lead.toNat - 0xF0) 2 rest
  else .flaw .badStart 0

/-- The units of a byte sequence, after `skip` bytes that belong to the unit before. -/
def unitsFrom : (skip : Nat) → List UInt8 → List Unit
  | _, [] => []
  | skip + 1, _ :: rest => unitsFrom skip rest
  | 0, byte :: rest =>
    match unitAt byte rest with
    | .character value further => .character value further :: unitsFrom further rest
    | .flaw kind further => .flaw kind further :: unitsFrom further rest

def units (bytes : List UInt8) : List Unit :=
  unitsFrom 0 bytes

def Unit.lenient : Unit → Char
  | .character value _ => value
  | .flaw _ _ => Char.ofNat 0xFFFD

def decodeLenient (bytes : List UInt8) : String :=
  String.ofList ((units bytes).map Unit.lenient)

structure Failure where
  kind : Flaw
  position : Nat
  bytes : List UInt8
  deriving DecidableEq, Repr

def decodeFrom (position : Nat) (bytes : List UInt8) : List Unit → Except Failure (List Char)
  | [] => .ok []
  | .character value further :: rest =>
    (decodeFrom (position + further + 1) bytes rest).map (value :: ·)
  | .flaw kind further :: _ =>
    .error ⟨kind, position, (bytes.drop position).take (further + 1)⟩

def decode (bytes : List UInt8) : Except Failure String :=
  (decodeFrom 0 bytes (units bytes)).map String.ofList

def encode (text : String) : List UInt8 :=
  text.toList.flatMap String.utf8EncodeChar

end ImportPlanning.Text.Utf8
