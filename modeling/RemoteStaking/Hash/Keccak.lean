import RemoteStaking.Hash.Blocks

/-!
# `RemoteStaking.Hash.Keccak` — the hash function Keccak-256

The 32-byte digest that names the methods and events of contracts, in its form with the padding byte `01`.

## Contents
- **`permute`**: the 24 rounds `theta`, `rhoPi`, `chi`, `iota` on a state of 25 words; word `x + 5 * y` is the one in
  column `x` and row `y`.
- **`keccak256`**: the digest; `length_keccak256` fixes its width.
-/

namespace RemoteStaking.Hash.Keccak

/-- The word at an index below 25. -/
def lane (state : List UInt64) (i : Nat) : UInt64 :=
  state.getD i 0

/-- Rotation to the left, for amounts from 0 to 63. -/
def rotl (w n : UInt64) : UInt64 :=
  w <<< n ||| w >>> (64 - n)

/-- How far each word is rotated. -/
def offsets : List UInt64 :=
  [0, 1, 62, 28, 27, 36, 44, 6, 55, 20, 3, 10, 43, 25, 39, 41, 45, 15, 21, 8, 18, 2, 61, 56, 14]

/-- The constant of each round. -/
def roundConstants : List UInt64 :=
  [0x0000000000000001, 0x0000000000008082, 0x800000000000808A, 0x8000000080008000,
   0x000000000000808B, 0x0000000080000001, 0x8000000080008081, 0x8000000000008009,
   0x000000000000008A, 0x0000000000000088, 0x0000000080008009, 0x000000008000000A,
   0x000000008000808B, 0x800000000000008B, 0x8000000000008089, 0x8000000000008003,
   0x8000000000008002, 0x8000000000000080, 0x000000000000800A, 0x800000008000000A,
   0x8000000080008081, 0x8000000000008080, 0x0000000080000001, 0x8000000080008008]

/-- Add to every word the parities of the two columns beside it. -/
def theta (s : List UInt64) : List UInt64 :=
  let parity := (List.range 5).map fun x =>
    lane s x ^^^ lane s (x + 5) ^^^ lane s (x + 10) ^^^ lane s (x + 15) ^^^ lane s (x + 20)
  let change := (List.range 5).map fun x =>
    lane parity ((x + 4) % 5) ^^^ rotl (lane parity ((x + 1) % 5)) 1
  (List.range 25).map fun i => lane s i ^^^ lane change (i % 5)

/-- Rotate every word and move it: the word in column `x` and row `y` goes to column `y`. -/
def rhoPi (s : List UInt64) : List UInt64 :=
  (List.range 25).map fun i =>
    let source := (i % 5 + 3 * (i / 5)) % 5 + 5 * (i % 5)
    rotl (lane s source) (offsets.getD source 0)

/-- Combine every word with the two that follow it in its row. -/
def chi (s : List UInt64) : List UInt64 :=
  (List.range 25).map fun i =>
    let row := i / 5 * 5
    lane s i ^^^ (~~~(lane s (row + (i + 1) % 5)) &&& lane s (row + (i + 2) % 5))

/-- Add the round's constant to the first word. -/
def iota (constant : UInt64) : List UInt64 → List UInt64
  | [] => []
  | w :: ws => (w ^^^ constant) :: ws

/-- All rounds. -/
def permute (s : List UInt64) : List UInt64 :=
  roundConstants.foldl (fun s constant => iota constant (chi (rhoPi (theta s)))) s

/-- Bytes that are taken in between two permutations. -/
def rate : Nat := 136

/-- The state after a block. -/
def absorb (s : List UInt64) (block : List UInt8) : List UInt64 :=
  let words := (blocks 8 block).map littleEndian64
  permute ((List.range 25).map fun i => lane s i ^^^ lane words i)

/-- The message, a one bit, zeros, and a one bit at the very end. -/
def pad (message : List UInt8) : List UInt8 :=
  match zerosTo rate (message.length + 1) with
  | 0 => message ++ [0x81]
  | n + 1 => message ++ 0x01 :: List.replicate n 0 ++ [0x80]

end Keccak

/-- The Keccak-256 digest of the bytes. -/
def keccak256 (message : List UInt8) : List UInt8 :=
  let s := (blocks Keccak.rate (Keccak.pad message)).foldl Keccak.absorb (List.replicate 25 0)
  [0, 1, 2, 3].flatMap fun i => bytes64 (Keccak.lane s i)

@[simp] theorem length_keccak256 (message : List UInt8) : (keccak256 message).length = 32 := rfl

end RemoteStaking.Hash
