/-!
# `RemoteStaking.Text.Utf8` — characters as bytes, and bytes as characters

Texts are strings of Unicode characters; hashes, checksums and call data are made of bytes.

## Contents
- **Encoding.** `Utf8.encode` and `utf8` write each character in its one to four bytes.
- **Decoding.** `Utf8.decodeLossy` reads any bytes at all: a machine (`Pending`, `Pending.step`) runs over them one
  byte at a time, and whenever a byte cannot continue the character begun, the bytes of that character so far are
  replaced by one U+FFFD and the byte is looked at afresh.
-/

namespace RemoteStaking

namespace Utf8

/-! ## Encoding -/

/-- The UTF-8 bytes of the characters, in order. -/
def encode (cs : List Char) : List UInt8 :=
  cs.flatMap String.utf8EncodeChar

@[simp] theorem encode_nil : encode [] = [] := rfl

@[simp] theorem encode_cons (c : Char) (cs : List Char) :
    encode (c :: cs) = String.utf8EncodeChar c ++ encode cs := rfl

/-! ## Decoding -/

/-- A character of which the first bytes were read: the value they spell so far, the number of bytes still owed
    beyond the next one, and the bounds between which the next one has to lie. -/
structure Pending where
  value : Nat
  owed : Nat
  low : Nat
  high : Nat

/-- What one byte leads to. -/
inductive Step where
  /-- The byte completes a character. -/
  | complete (c : Char)
  /-- The byte belongs to a character that needs more bytes. -/
  | more (p : Pending)
  /-- No character continues with the byte. -/
  | refuse

/-- A first byte. Bytes of `80`–`C1` and from `F5` on begin no character; after `E0`, `ED`, `F0` and `F4` the range of
    the second byte is narrower, which keeps out overlong forms, surrogates and values beyond U+10FFFF. -/
def first (b : UInt8) : Step :=
  let n := b.toNat
  if n < 0x80 then .complete (Char.ofNat n)
  else if n < 0xC2 then .refuse
  else if n < 0xE0 then .more ⟨n - 0xC0, 0, 0x80, 0xBF⟩
  else if n = 0xE0 then .more ⟨0, 1, 0xA0, 0xBF⟩
  else if n = 0xED then .more ⟨0xD, 1, 0x80, 0x9F⟩
  else if n < 0xF0 then .more ⟨n - 0xE0, 1, 0x80, 0xBF⟩
  else if n = 0xF0 then .more ⟨0, 2, 0x90, 0xBF⟩
  else if n < 0xF4 then .more ⟨n - 0xF0, 2, 0x80, 0xBF⟩
  else if n = 0xF4 then .more ⟨4, 2, 0x80, 0x8F⟩
  else .refuse

/-- A byte after the first of a character: it adds six bits to the value. -/
def Pending.step (p : Pending) (b : UInt8) : Step :=
  let n := b.toNat
  if p.low ≤ n ∧ n ≤ p.high then
    let value := p.value * 64 + (n - 0x80)
    match p.owed with
    | 0 => .complete (Char.ofNat value)
    | owed + 1 => .more ⟨value, owed, 0x80, 0xBF⟩
  else .refuse

/-- The character that stands for bytes that spell none. -/
def replacement : Char := '\uFFFD'

/-- Read on from the middle of a character, or (`none`) from between two. -/
def decodeFrom : Option Pending → List UInt8 → List Char
  | none, [] => []
  | some _, [] => [replacement]
  | none, b :: bs =>
    match first b with
    | .complete c => c :: decodeFrom none bs
    | .more p => decodeFrom (some p) bs
    | .refuse => replacement :: decodeFrom none bs
  | some p, b :: bs =>
    match p.step b with
    | .complete c => c :: decodeFrom none bs
    | .more q => decodeFrom (some q) bs
    | .refuse =>
      match first b with
      | .complete c => replacement :: c :: decodeFrom none bs
      | .more q => replacement :: decodeFrom (some q) bs
      | .refuse => replacement :: replacement :: decodeFrom none bs

/-- The text that the bytes spell, with U+FFFD for every longest run that begins a character and completes none. -/
def decodeLossy (bs : List UInt8) : String :=
  String.ofList (decodeFrom none bs)

end Utf8

/-- The UTF-8 bytes of a text. -/
def utf8 (s : String) : List UInt8 :=
  Utf8.encode s.toList

end RemoteStaking
