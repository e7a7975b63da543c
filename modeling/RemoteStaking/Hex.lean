/-!
# `RemoteStaking.Hex` — bytes as hexadecimal digits

## Contents
- **Nibbles.** A byte is two nibbles, the high one first: `unpack` and `pack` undo each other.
- **Writing.** `Hex.encode` uses lower-case digits, `Hex.encodeUpper` upper-case ones.
- **Reading.** `Hex.nibblesFrom` reads digits of either case and names the first byte that is none.
-/

namespace RemoteStaking.Hex

/-! ## Nibbles -/

/-- Half a byte. -/
abbrev Nibble := Fin 16

/-- The byte with the given halves. -/
def byte (hi lo : Nibble) : UInt8 :=
  UInt8.ofNat (hi.val * 16 + lo.val)

/-- The high half of a byte. -/
def high (b : UInt8) : Nibble :=
  ⟨b.toNat / 16, Nat.div_lt_of_lt_mul b.toNat_lt⟩

/-- The low half of a byte. -/
def low (b : UInt8) : Nibble :=
  ⟨b.toNat % 16, Nat.mod_lt _ (by decide)⟩

/-- The halves of the bytes, in order. -/
def unpack : List UInt8 → List Nibble
  | [] => []
  | b :: bs => high b :: low b :: unpack bs

/-- The bytes whose halves are given, in order; a last nibble without a partner is dropped. -/
def pack : List Nibble → List UInt8
  | hi :: lo :: rest => byte hi lo :: pack rest
  | _ => []

@[simp] theorem byte_high_low (b : UInt8) : byte (high b) (low b) = b := by
  simp only [byte, high, low, Nat.div_add_mod']
  exact UInt8.ofNat_toNat

@[simp] theorem pack_unpack (bs : List UInt8) : pack (unpack bs) = bs := by
  induction bs with
  | nil => rfl
  | cons b bs ih => simp [unpack, pack, ih]

@[simp] theorem length_unpack (bs : List UInt8) : (unpack bs).length = 2 * bs.length := by
  induction bs with
  | nil => rfl
  | cons b bs ih => simp only [unpack, List.length_cons, ih]; omega

theorem length_pack : ∀ ns : List Nibble, (pack ns).length = ns.length / 2
  | [] => rfl
  | [_] => by simp [pack]
  | _ :: _ :: rest => by simp only [pack, List.length_cons, length_pack rest]; omega

/-! ## Writing -/

/-- The lower-case digit of a nibble. -/
def digit (n : Nibble) : Char :=
  Nat.digitChar n.val

/-- The upper-case digit of a nibble. -/
def upperDigit (n : Nibble) : Char :=
  (digit n).toUpper

/-- The bytes in lower-case digits, two a byte. -/
def encode (bs : List UInt8) : String :=
  String.ofList ((unpack bs).map digit)

/-- The bytes in upper-case digits, two a byte. -/
def encodeUpper (bs : List UInt8) : String :=
  String.ofList ((unpack bs).map upperDigit)

/-! ## Reading -/

/-- The nibble that the ASCII digit of code `b` stands for, in either case. -/
def nibble? (b : UInt8) : Option Nibble :=
  let n := b.toNat
  if h : 48 ≤ n ∧ n ≤ 57 then some ⟨n - 48, by omega⟩
  else if h : 65 ≤ n ∧ n ≤ 70 then some ⟨n - 55, by omega⟩
  else if h : 97 ≤ n ∧ n ≤ 102 then some ⟨n - 87, by omega⟩
  else none

/-- As `nibble?`, of a character. -/
def nibbleOfChar? (c : Char) : Option Nibble :=
  if c.toNat < 256 then nibble? (UInt8.ofNat c.toNat) else none

/-- A byte that is no digit, and where it stands. -/
structure BadDigit where
  byte : UInt8
  position : Nat
deriving DecidableEq

/-- The nibbles that the digits stand for, the first of which has the given position. -/
def nibblesFrom (position : Nat) : List UInt8 → Except BadDigit (List Nibble)
  | [] => .ok []
  | b :: bs =>
    match nibble? b with
    | none => .error ⟨b, position⟩
    | some n =>
      match nibblesFrom (position + 1) bs with
      | .error e => .error e
      | .ok ns => .ok (n :: ns)

theorem length_of_nibblesFrom {bs : List UInt8} {position : Nat} {ns : List Nibble}
    (h : nibblesFrom position bs = .ok ns) : ns.length = bs.length := by
  induction bs generalizing position ns with
  | nil => cases h; rfl
  | cons b bs ih =>
    unfold nibblesFrom at h
    split at h
    · cases h
    · split at h
      · cases h
      · rename_i hr
        cases h
        simp [ih hr]

end RemoteStaking.Hex
