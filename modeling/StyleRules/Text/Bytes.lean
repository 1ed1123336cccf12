/-!
# Bytes as text

Bytes are decoded as UTF-8; bytes that are not part of a well-formed sequence become replacement characters, one by
one.  They are also written as digits of six bits: three bytes are four digits, and padding completes the last group.
Reading such digits passes over other characters, and ends where padding completes a group.
-/

/-! ## Reading UTF-8 -/

namespace StyleRules.Text

/-- The character that stands for bytes that cannot be decoded. -/
def replacement : Char := '\ufffd'

/-- The payload of a continuation byte. -/
def continuation? (byte : UInt8) : Option Nat :=
  if 0x80 ≤ byte && byte < 0xc0 then some (byte.toNat - 0x80) else none

/-- A code that may be written with the given number of bytes. -/
def sequenceChar? (least code : Nat) : Option Char :=
  if least ≤ code ∧ code.isValidChar then some (Char.ofNat code) else none

/-- The character of the sequence at the beginning, and how many bytes follow the first one. -/
def decodeFirst? (first : UInt8) (rest : List UInt8) : Option (Char × Nat) :=
  if first < 0x80 then some (Char.ofNat first.toNat, 0)
  else if first < 0xe0 then do
    let a ← rest[0]? >>= continuation?
    if first < 0xc0 then none
    else (sequenceChar? 0x80 ((first.toNat - 0xc0) * 0x40 + a)).map (·, 1)
  else if first < 0xf0 then do
    let a ← rest[0]? >>= continuation?
    let b ← rest[1]? >>= continuation?
    (sequenceChar? 0x800 (((first.toNat - 0xe0) * 0x40 + a) * 0x40 + b)).map (·, 2)
  else if first < 0xf8 then do
    let a ← rest[0]? >>= continuation?
    let b ← rest[1]? >>= continuation?
    let c ← rest[2]? >>= continuation?
    (sequenceChar? 0x10000 ((((first.toNat - 0xf0) * 0x40 + a) * 0x40 + b) * 0x40 + c)).map (·, 3)
  else none

/-- Decode bytes, of which the first `skipped` belong to a character already decoded. -/
def decodeFrom (skipped : Nat) : List UInt8 → List Char
  | [] => []
  | first :: rest =>
    match skipped with
    | n + 1 => decodeFrom n rest
    | 0 =>
      match decodeFirst? first rest with
      | some (c, more) => c :: decodeFrom more rest
      | none => replacement :: decodeFrom 0 rest

def decodeLossy (bytes : List UInt8) : String := String.ofList (decodeFrom 0 bytes)

end StyleRules.Text

/-! ## Bytes as digits of six bits -/

namespace StyleRules.Base64

/-- The digits in the order of their values. -/
def alphabet : List Char :=
  "ABCDEFGHIJKLMNOPQRSTUVWXYZabcdefghijklmnopqrstuvwxyz0123456789+/".toList

/-- The first digits of a group of three bytes, which are the base 256 digits of `code`. -/
def digits (code count : Nat) : List Char :=
  [code / 262144, code / 4096, code / 64, code].take count |>.map fun part => alphabet.getD (part % 64) '='

/-- Write bytes. -/
def encode : List UInt8 → List Char
  | [] => []
  | [a] => digits (a.toNat * 65536) 2 ++ ['=', '=']
  | [a, b] => digits (a.toNat * 65536 + b.toNat * 256) 3 ++ ['=']
  | a :: b :: c :: rest => digits (a.toNat * 65536 + b.toNat * 256 + c.toNat) 4 ++ encode rest

/-- The bytes of a group of `place` digits with the value `code`; bits beyond the last byte are dropped. -/
def groupBytes (code place : Nat) : List UInt8 :=
  let bytes := match place with
    | 2 => [code / 16]
    | 3 => [code / 1024, code / 4]
    | _ => [code / 65536, code / 256, code]
  bytes.map UInt8.ofNat

/-- Read digits behind `place` digits of the same group with the value `code`, after which `pads` padding
characters were read.  A group that is neither complete nor padded is refused. -/
def decodeFrom (code place pads : Nat) : List Char → Option (List UInt8)
  | [] => if place = 0 then some [] else none
  | c :: rest =>
    if c = '=' then
      if place < 2 then decodeFrom code place pads rest
      else if 3 ≤ place + pads then some (groupBytes code place)
      else decodeFrom code place (pads + 1) rest
    else
      match alphabet.idxOf? c with
      | none => decodeFrom code place pads rest
      | some digit =>
        let code := code * 64 + digit
        if place = 3 then (decodeFrom 0 0 0 rest).map (groupBytes code 4 ++ ·)
        else decodeFrom code (place + 1) 0 rest

/-- Read bytes. -/
def decode? (chars : List Char) : Option (List UInt8) := decodeFrom 0 0 0 chars

end StyleRules.Base64
