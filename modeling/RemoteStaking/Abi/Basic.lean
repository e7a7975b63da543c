import RemoteStaking.Address

/-!
# `RemoteStaking.Abi` — how contracts are called

Calls and logs carry their values in words of 32 bytes.

## Contents
- **Words.** `Abi.Word`, `natOfBytes` and `bytesOfNat`: numbers as bytes, the highest first.
- **Kinds and values.** `Abi.Kind` names what a parameter can be, `Abi.Value` is what it is in a call.
- **`AbiError`**: why a name or call data are refused.
-/

namespace RemoteStaking

namespace Abi

/-! ## Words -/

/-- A number of 256 bits. -/
abbrev Word := BitVec 256

/-- The number that bytes spell, the highest first. -/
def natOfBytes (bs : List UInt8) : Nat :=
  bs.foldl (fun n b => n * 256 + b.toNat) 0

/-- The lowest `width` bytes of a number, the highest first. -/
def bytesOfNat : Nat → Nat → List UInt8
  | 0, _ => []
  | width + 1, n => bytesOfNat width (n / 256) ++ [UInt8.ofNat n]

@[simp] theorem length_bytesOfNat (width n : Nat) : (bytesOfNat width n).length = width := by
  induction width generalizing n with
  | zero => rfl
  | succ width ih => simp [bytesOfNat, ih]

/-- The 32 bytes of a word. -/
def wordBytes (w : Word) : List UInt8 :=
  bytesOfNat 32 w.toNat

/-- The word that bytes spell. -/
def wordOfBytes (bs : List UInt8) : Word :=
  BitVec.ofNat 256 (natOfBytes bs)

/-! ## Kinds and values -/

/-- What a parameter can be. -/
inductive Kind where
  | address
  | uint (bits : Nat)
  | int (bits : Nat)
  | bool
  | string
  | bytes
  | fixedBytes (size : Nat)
deriving DecidableEq

/-- The kind as it stands in signatures. -/
def Kind.toText : Kind → String
  | address => "address"
  | uint bits => s!"uint{bits}"
  | int bits => s!"int{bits}"
  | bool => "bool"
  | string => "string"
  | bytes => "bytes"
  | fixedBytes size => s!"bytes{size}"

/-- A value of some kind. Numbers of any width fill a word. -/
inductive Value where
  | address (a : Address)
  | uint (w : Word)
  | int (w : Word)
  | bool (b : Bool)
  | string (s : String)
  | bytes (bs : List UInt8)
  | fixedBytes (bs : List UInt8)
deriving DecidableEq

end Abi

/-- Why a name or data are refused. -/
inductive AbiError where
  /-- The interface has nothing of that name. -/
  | unknownName (name : String)
  /-- There are no data, but there are parameters. -/
  | noData
  /-- A word or a text is not where it has to be. -/
  | invalidData
deriving DecidableEq

/-- The error as a text. -/
def AbiError.message : AbiError → String
  | .unknownName name => "Invalid name: " ++ name
  | .noData =>
    "Invalid name: please ensure the contract and method you're calling exist! failed to decode empty bytes. "
      ++ "if you're using jsonrpc this is likely due to jsonrpc returning `0x` in case contract or method don't exist"
  | .invalidData => "Invalid data"

end RemoteStaking
