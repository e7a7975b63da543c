/-!
# `RemoteStaking.Hash.Blocks` — cutting a message into blocks

Both hash functions pad a message to a whole number of blocks and take it in block by block.
-/

namespace RemoteStaking.Hash

/-- The whole blocks of `size` items, in order; items after the last whole block are left out. -/
def blocks {α : Type} (size : Nat) (items : List α) : List (List α) :=
  (List.range (items.length / size)).map fun i => (items.drop (i * size)).take size

/-- The number of zeros that bring a message of `n` items to a multiple of `size`. -/
def zerosTo (size n : Nat) : Nat :=
  (size - n % size) % size

/-- The word that four bytes spell, the highest first. -/
def bigEndian32 (bs : List UInt8) : UInt32 :=
  bs.foldl (fun w b => w <<< 8 ||| b.toUInt32) 0

/-- The four bytes of a word, the highest first. -/
def bytes32 (w : UInt32) : List UInt8 :=
  [(w >>> 24).toUInt8, (w >>> 16).toUInt8, (w >>> 8).toUInt8, w.toUInt8]

/-- The word that eight bytes spell, the lowest first. -/
def littleEndian64 (bs : List UInt8) : UInt64 :=
  bs.foldr (fun b w => w <<< 8 ||| b.toUInt64) 0

/-- The eight bytes of a word, the lowest first. -/
def bytes64 (w : UInt64) : List UInt8 :=
  [w.toUInt8, (w >>> 8).toUInt8, (w >>> 16).toUInt8, (w >>> 24).toUInt8, (w >>> 32).toUInt8, (w >>> 40).toUInt8,
   (w >>> 48).toUInt8, (w >>> 56).toUInt8]

end RemoteStaking.Hash
