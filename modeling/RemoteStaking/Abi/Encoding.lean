import RemoteStaking.Abi.Basic

/-!
# `RemoteStaking.Abi.Encoding` — values as bytes, and back

Each value has a head of one word. That of a text or of bytes says where its tail begins, counted from the start of the
data; the tail is the length and the bytes, filled up with zeros to whole words.

## Contents
- **Writing.** `Value.head`, `Value.tail`, `encode`.
- **Reading.** `word?`, `size?` and `run?` look at the data at a place and refuse to look beyond their end;
  `decodeValue` and `decode` read the kinds one after the other. Neither filling zeros nor the end of the data are
  looked at.
-/

namespace RemoteStaking.Abi

/-! ## Writing -/

/-- The bytes, filled up with zeros to whole words. -/
def padded (bs : List UInt8) : List UInt8 :=
  bs ++ List.replicate ((32 - bs.length % 32) % 32) 0

/-- The length and the bytes. -/
def sized (bs : List UInt8) : List UInt8 :=
  bytesOfNat 32 bs.length ++ padded bs

namespace Value

/-- What stands at the end of the data for the value, if anything. -/
def tail : Value → List UInt8
  | string s => sized (utf8 s)
  | bytes bs => sized bs
  | _ => []

/-- What stands at the front of the data for the value, whose tail begins at the given place. -/
def head (place : Nat) : Value → List UInt8
  | address a => List.replicate 12 0 ++ a.bytes
  | uint w => wordBytes w
  | int w => wordBytes w
  | bool b => bytesOfNat 32 b.toNat
  | string _ => bytesOfNat 32 place
  | bytes _ => bytesOfNat 32 place
  | fixedBytes bs => padded bs

end Value

/-- The heads of the values, whose tails begin at the given place. -/
def heads (place : Nat) : List Value → List UInt8
  | [] => []
  | v :: vs => v.head place ++ heads (place + v.tail.length) vs

/-- The data for the values. -/
def encode (vs : List Value) : List UInt8 :=
  heads (32 * vs.length) vs ++ vs.flatMap Value.tail

/-! ## Reading -/

/-- The `length` bytes at a place of the data. -/
def run? (data : List UInt8) (place length : Nat) : Option (List UInt8) :=
  if place + length ≤ data.length then some ((data.drop place).take length) else none

/-- The word at a place of the data. -/
def word? (data : List UInt8) (place : Nat) : Option (List UInt8) :=
  run? data place 32

/-- The word at a place as a place or a length: it has to be below 2^32. -/
def size? (data : List UInt8) (place : Nat) : Option Nat :=
  match word? data place with
  | none => none
  | some w => if (w.take 28).all (· = 0) then some (natOfBytes (w.drop 28)) else none

/-- The bytes whose length stands at the place that stands at the given place. -/
def sized? (data : List UInt8) (place : Nat) : Option (List UInt8) :=
  match size? data place with
  | none => none
  | some start =>
    match size? data start with
    | none => none
    | some length => run? data (start + 32) length

/-- The account in a word; the bytes before it are not looked at. -/
def addressOfWord (w : List UInt8) : Option Address :=
  if h : (w.drop 12).length = 20 then some ⟨w.drop 12, h⟩ else none

/-- The truth value in a word of which only the last byte may differ from zero; one is true, anything else false. -/
def boolOfWord (w : List UInt8) : Option Bool :=
  if (w.take 31).all (· = 0) then some (w.drop 31 == [1]) else none

/-- The value of a kind at a place of the data. -/
def decodeValue (data : List UInt8) (place : Nat) : Kind → Option Value
  | .address => ((word? data place).bind addressOfWord).map .address
  | .uint _ => (word? data place).map fun w => .uint (wordOfBytes w)
  | .int _ => (word? data place).map fun w => .int (wordOfBytes w)
  | .bool => ((word? data place).bind boolOfWord).map .bool
  | .string => (sized? data place).map fun bs => .string (Utf8.decodeLossy bs)
  | .bytes => (sized? data place).map .bytes
  | .fixedBytes size => (run? data place size).map .fixedBytes

/-- The values of the kinds, the heads of which begin at a place of the data. -/
def decodeFrom (data : List UInt8) (place : Nat) : List Kind → Option (List Value)
  | [] => some []
  | k :: ks =>
    match decodeValue data place k, decodeFrom data (place + 32) ks with
    | some v, some vs => some (v :: vs)
    | _, _ => none

/-- The values of the kinds. -/
def decode (kinds : List Kind) (data : List UInt8) : Except AbiError (List Value) :=
  if kinds ≠ [] ∧ data = [] then .error .noData
  else
    match decodeFrom data 0 kinds with
    | some vs => .ok vs
    | none => .error .invalidData

end RemoteStaking.Abi
