import RemoteStaking.Bech32.Digits

/-!
# `RemoteStaking.Bech32.Checksum` — the checksum over base-32 digits

The checksum is a remainder of polynomials over the field of 32 elements. Its six coefficients are kept in one word of
30 bits, the highest first.

## Contents
- **`step`**, **`remainder`**: take in one digit, and all digits.
- **`checksum`**: the six digits that make the remainder of a text one.
-/

namespace RemoteStaking.Bech32

/-- Six digits of five bits. -/
abbrev Residue := BitVec 30

/-- What the digit that leaves at the top brings back, for each of its bits from the lowest. -/
def generators : List Residue :=
  [0x3b6a57b2, 0x26508e6d, 0x1ea119fa, 0x3d4233dd, 0x2a1462b3]

/-- The sum of the generators that the bits of the digit that leaves select. -/
def feedback (r : Residue) : Residue :=
  generators.zipIdx.foldl (fun sum (g, i) => if r.getLsbD (25 + i) then sum ^^^ g else sum) 0

/-- Take in a digit at the bottom. -/
def step (r : Residue) (d : Digit) : Residue :=
  r <<< 5 ^^^ BitVec.ofNat 30 d.val ^^^ feedback r

/-- Take in the digits one after the other. -/
def remainder (ds : List Digit) : Residue :=
  ds.foldl step 1

/-- The digits by which a human-readable part enters the checksum: the high bits of its bytes, a zero, and the low
    bits. -/
def expand (hrp : List UInt8) : List Digit :=
  hrp.map (fun b => ⟨b.toNat / 32, by have := b.toNat_lt; omega⟩)
    ++ 0 :: hrp.map fun b => ⟨b.toNat % 32, Nat.mod_lt _ (by decide)⟩

/-- The six digits of a residue, the highest first. -/
def residueDigits (r : Residue) : List Digit :=
  [25, 20, 15, 10, 5, 0].map fun i => ⟨(r >>> i).toNat % 32, Nat.mod_lt _ (by decide)⟩

/-- The six digits that follow the data. -/
def checksum (hrp : List UInt8) (data : List Digit) : List Digit :=
  residueDigits (remainder (expand hrp ++ data ++ List.replicate 6 0) ^^^ 1)

/-- Whether the digits end in their checksum. -/
def verifies (hrp : List UInt8) (ds : List Digit) : Bool :=
  remainder (expand hrp ++ ds) = 1

end RemoteStaking.Bech32
