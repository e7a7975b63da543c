/-!
# `RemoteStaking.Bech32.Digits` — bytes in groups of five bits

## Contents
- **Bits.** `bitsOfByte`, `byteOfBits`, `bitsOfDigit`, `digitOfBits`: the highest bit first.
- **Regrouping.** `digits` cuts bytes into digits of five bits, with zeros after the last; `bytes` goes back and
  returns the bits that are left over.
- **The alphabet.** `letter` and `digit?`.
-/

namespace RemoteStaking.Bech32

/-- A digit of base 32. -/
abbrev Digit := Fin 32

/-! ## Bits -/

/-- The number that bits spell, the highest first. -/
def valueOfBits (bits : List Bool) : Nat :=
  bits.foldl (fun n b => 2 * n + b.toNat) 0

/-- The eight bits of a byte, the highest first. -/
def bitsOfByte (b : UInt8) : List Bool :=
  [b.toNat.testBit 7, b.toNat.testBit 6, b.toNat.testBit 5, b.toNat.testBit 4, b.toNat.testBit 3, b.toNat.testBit 2,
   b.toNat.testBit 1, b.toNat.testBit 0]

/-- The byte that eight bits spell. -/
def byteOfBits (bits : List Bool) : UInt8 :=
  UInt8.ofNat (valueOfBits bits)

/-- The five bits of a digit, the highest first. -/
def bitsOfDigit (d : Digit) : List Bool :=
  [d.val.testBit 4, d.val.testBit 3, d.val.testBit 2, d.val.testBit 1, d.val.testBit 0]

/-- The digit that five bits spell. -/
def digitOfBits (bits : List Bool) : Digit :=
  ⟨valueOfBits bits % 32, Nat.mod_lt _ (by decide)⟩

/-! ## Regrouping -/

/-- The bits in groups of five; a last group that is not full is filled with zeros. -/
def digitsOfBits : List Bool → List Digit
  | [] => []
  | a :: b :: c :: d :: e :: rest => digitOfBits [a, b, c, d, e] :: digitsOfBits rest
  | short => [digitOfBits (short ++ List.replicate (5 - short.length) false)]

/-- The bytes in digits. -/
def digits (bs : List UInt8) : List Digit :=
  digitsOfBits (bs.flatMap bitsOfByte)

/-- The bits in groups of eight, and the bits that are left over. -/
def bytesOfBits : List Bool → List UInt8 × List Bool
  | a :: b :: c :: d :: e :: f :: g :: h :: rest =>
    let (bs, left) := bytesOfBits rest
    (byteOfBits [a, b, c, d, e, f, g, h] :: bs, left)
  | short => ([], short)

/-- The whole bytes in the digits, and the bits that are left over. -/
def bytes (ds : List Digit) : List UInt8 × List Bool :=
  bytesOfBits (ds.flatMap bitsOfDigit)

/-! ## The alphabet -/

/-- The letters of the digits from 0 to 31. -/
def alphabet : List Char :=
  ['q', 'p', 'z', 'r', 'y', '9', 'x', '8', 'g', 'f', '2', 't', 'v', 'd', 'w', '0',
   's', '3', 'j', 'n', '5', '4', 'k', 'h', 'c', 'e', '6', 'm', 'u', 'a', '7', 'l']

/-- The letter of a digit. -/
def letter (d : Digit) : Char :=
  alphabet.get ⟨d.val, d.isLt⟩

/-- The digit of a letter; capital letters have none. -/
def digit? (c : Char) : Option Digit :=
  (List.finRange 32).find? fun d => letter d = c

theorem digit?_letter (d : Digit) : digit? (letter d) = some d := by
  revert d
  decide

end RemoteStaking.Bech32
