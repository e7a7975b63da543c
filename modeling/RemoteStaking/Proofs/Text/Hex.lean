import Mathlib.Data.List.Forall2
import RemoteStaking.Text.Utf8
import RemoteStaking.Proofs.Json.Grammar
import RemoteStaking.Proofs.Transfer.Grammar

/-!
# `RemoteStaking.Proofs.Text.Hex` — bytes as pairs of hexadecimal digits

Digits are read from the bytes of a text, where a digit is one byte and a character of several begins with a byte that is
no digit. So reading the bytes reads the characters. Two digits in a row spell a byte, and what is written for a byte is the
one spelling of it that is in lower case.

## Contents
- **Digits.** `Digits`: digits and the halves of bytes that they stand for. **`nibblesFrom_encode_iff`**: they are what is
  read. `exists_digits_iff`: a text can be read if all its characters are digits.
- **Pairs of digits.** **`Spells`**: digits and the bytes that they spell, with `spells_iff` and `exists_spells_iff`.
  `encode_of_spells`, `spells_encode`: writing gives the digits back in lower case.
-/

namespace RemoteStaking.Hex

open Json (IsHexDigit)

/-! ## Digits -/

/-- Digits stand for halves of bytes, one for one. -/
def Digits : List Char → List Nibble → Prop :=
  List.Forall₂ fun c n => IsHexDigit n.val c

theorem nibbleOfChar?_eq_some_iff {c : Char} {n : Nibble} : nibbleOfChar? c = some n ↔ IsHexDigit n.val c := by
  constructor
  · exact Json.isHexDigit_of_nibbleOfChar?
  · intro h
    obtain ⟨n', hn', hval⟩ := Json.nibbleOfChar?_of_isHexDigit h
    rw [hn', Fin.ext hval]

theorem nibble?_ofNat_eq_none {n : Nat} (h : 0x7F < n % 256) : nibble? (UInt8.ofNat n) = none := by
  simp only [nibble?, UInt8.toNat_ofNat']
  rw [dif_neg (by omega), dif_neg (by omega), dif_neg (by omega)]

/-- A character of ASCII is one byte, and stands for what the byte does. -/
theorem encodeChar_narrow {c : Char} (h : c.toNat ≤ 0x7F) :
    String.utf8EncodeChar c = [UInt8.ofNat c.toNat] ∧ nibble? (UInt8.ofNat c.toNat) = nibbleOfChar? c := by
  constructor
  · exact if_pos h
  · rw [nibbleOfChar?, if_pos (by omega)]

/-- Neither another character nor its first byte is a digit. -/
theorem encodeChar_wide {c : Char} (h : 0x7F < c.toNat) :
    (∃ b bs, String.utf8EncodeChar c = b :: bs ∧ nibble? b = none) ∧ nibbleOfChar? c = none := by
  have hv : ¬ c.val.toNat ≤ 0x7F := Nat.not_le.2 h
  have hlast : c.val.toNat < 0x110000 := Json.lt_codePoints c
  constructor
  · unfold String.utf8EncodeChar
    rw [if_neg hv]
    split
    · exact ⟨_, _, rfl, nibble?_ofNat_eq_none (by omega)⟩
    split
    · exact ⟨_, _, rfl, nibble?_ofNat_eq_none (by omega)⟩
    · exact ⟨_, _, rfl, nibble?_ofNat_eq_none (by omega)⟩
  · unfold nibbleOfChar?
    split
    · exact nibble?_ofNat_eq_none (by omega)
    · rfl

theorem nibblesFrom_cons_eq_ok_iff {b : UInt8} {bs : List UInt8} {position : Nat} {ns : List Nibble} :
    nibblesFrom position (b :: bs) = .ok ns ↔
      ∃ n ns', nibble? b = some n ∧ nibblesFrom (position + 1) bs = .ok ns' ∧ ns = n :: ns' := by
  rw [nibblesFrom]
  cases nibble? b with
  | none => simp
  | some n => cases nibblesFrom (position + 1) bs <;> simp [eq_comm]

/-- **Reading the bytes of characters reads the characters.** -/
theorem nibblesFrom_encode_iff (position : Nat) {cs : List Char} {ns : List Nibble} :
    nibblesFrom position (Utf8.encode cs) = .ok ns ↔ Digits cs ns := by
  unfold Digits
  induction cs generalizing position ns with
  | nil => simp [nibblesFrom, eq_comm]
  | cons c cs ih =>
    rw [Utf8.encode_cons, List.forall₂_cons_left_iff]
    by_cases hone : c.toNat ≤ 0x7F
    · obtain ⟨hbyte, hnibble⟩ := encodeChar_narrow hone
      rw [hbyte, List.singleton_append, nibblesFrom_cons_eq_ok_iff, hnibble]
      simp only [ih, nibbleOfChar?_eq_some_iff]
    · obtain ⟨⟨b, bs, hbytes, hnone⟩, hchar⟩ := encodeChar_wide (Nat.lt_of_not_le hone)
      rw [hbytes, List.cons_append, nibblesFrom_cons_eq_ok_iff, hnone]
      constructor
      · rintro ⟨n, ns', hn, -⟩
        cases hn
      · rintro ⟨n, ns', hn, -⟩
        rw [← nibbleOfChar?_eq_some_iff, hchar] at hn
        cases hn

/-- The digits of halves of bytes are the hexadecimal ones. -/
theorem exists_isHexDigit_iff {c : Char} : (∃ n : Nibble, IsHexDigit n.val c) ↔ IsHex c := by
  constructor
  · have hlower : ∀ n : Nibble, isHexDigit n.val.digitChar = true := by decide
    have hupper : ∀ n : Nibble, isHexDigit n.val.digitChar.toUpper = true := by decide
    rintro ⟨n, -, rfl | rfl⟩
    · exact isHexDigit_iff.1 (hlower n)
    · exact isHexDigit_iff.1 (hupper n)
  · intro h
    have hcode : (48 ≤ c.toNat ∧ c.toNat ≤ 57) ∨ (97 ≤ c.toNat ∧ c.toNat ≤ 102) ∨
        (65 ≤ c.toNat ∧ c.toNat ≤ 70) := h
    have hsome : (nibbleOfChar? c).isSome := by
      have hbyte : (UInt8.ofNat c.toNat).toNat = c.toNat := by
        rw [UInt8.toNat_ofNat']
        omega
      rw [nibbleOfChar?, if_pos (by omega)]
      simp only [nibble?, hbyte]
      rcases hcode with hnumber | hsmall | hcapital
      · rw [dif_pos hnumber]
        rfl
      · rw [dif_neg (by omega), dif_neg (by omega), dif_pos hsmall]
        rfl
      · rw [dif_neg (by omega), dif_pos hcapital]
        rfl
    obtain ⟨n, hn⟩ := Option.isSome_iff_exists.1 hsome
    exact ⟨n, nibbleOfChar?_eq_some_iff.1 hn⟩

theorem exists_digits_iff {cs : List Char} : (∃ ns, Digits cs ns) ↔ ∀ c ∈ cs, IsHex c := by
  unfold Digits
  induction cs with
  | nil => simp
  | cons c cs ih =>
    rw [List.forall_mem_cons, ← ih, ← exists_isHexDigit_iff]
    constructor
    · rintro ⟨ns, hns⟩
      obtain ⟨n, ns, hn, hns, -⟩ := List.forall₂_cons_left_iff.1 hns
      exact ⟨⟨n, hn⟩, ns, hns⟩
    · rintro ⟨⟨n, hn⟩, ns, hns⟩
      exact ⟨n :: ns, .cons hn hns⟩

/-! ## Pairs of digits -/

theorem high_byte : ∀ hi lo : Nibble, high (byte hi lo) = hi := by
  decide

theorem low_byte : ∀ hi lo : Nibble, low (byte hi lo) = lo := by
  decide

/-- Halves that come in pairs are those of the bytes that they make up. -/
theorem unpack_pack : ∀ {ns : List Nibble}, ns.length % 2 = 0 → unpack (pack ns) = ns
  | [], _ => rfl
  | [_], h => by cases h
  | hi :: lo :: rest, h => by
    have hrest : rest.length % 2 = 0 := by
      simp only [List.length_cons] at h
      omega
    rw [pack, unpack, high_byte, low_byte, unpack_pack hrest]

/-- **Digits spell bytes**: two of them spell one, the high half first. -/
inductive Spells : List Char → List UInt8 → Prop where
  | nil : Spells [] []
  | cons {m n : Nat} {hi lo : Char} {b : UInt8} {ds : List Char} {bs : List UInt8} (hhi : IsHexDigit m hi)
      (hlo : IsHexDigit n lo) (hb : b.toNat = 16 * m + n) (h : Spells ds bs) : Spells (hi :: lo :: ds) (b :: bs)

theorem spells_iff {ds : List Char} {bs : List UInt8} : Spells ds bs ↔ Digits ds (unpack bs) := by
  constructor
  · intro h
    induction h with
    | nil => exact .nil
    | @cons m n hi lo b ds bs hhi hlo hb _ ih =>
      have hm := hhi.1
      have hn := hlo.1
      have hhigh : (high b).val = m := by
        show b.toNat / 16 = m
        omega
      have hlow : (low b).val = n := by
        show b.toNat % 16 = n
        omega
      exact .cons (hhigh ▸ hhi) (.cons (hlow ▸ hlo) ih)
  · intro h
    induction bs generalizing ds with
    | nil =>
      cases h
      exact .nil
    | cons b bs ih =>
      obtain ⟨hi, tail, hhi, htail, rfl⟩ := List.forall₂_cons_right_iff.1 h
      obtain ⟨lo, ds, hlo, hds, rfl⟩ := List.forall₂_cons_right_iff.1 htail
      have hb : b.toNat = 16 * (high b).val + (low b).val := (Nat.div_add_mod b.toNat 16).symm
      exact .cons hhi hlo hb (ih hds)

/-- **Pairs of hexadecimal digits spell bytes**, one list of them. -/
theorem exists_spells_iff {ds : List Char} {k : Nat} : (∃ bs, Spells ds bs ∧ bs.length = k) ↔
    ds.length = 2 * k ∧ ∀ d ∈ ds, IsHex d := by
  simp only [spells_iff, ← exists_digits_iff]
  constructor
  · rintro ⟨bs, hds, rfl⟩
    exact ⟨hds.length_eq.trans (length_unpack bs), _, hds⟩
  · rintro ⟨hlength, ns, hns⟩
    have hns_length : ns.length = 2 * k := hns.length_eq.symm.trans hlength
    refine ⟨pack ns, ?_, ?_⟩
    · rwa [unpack_pack (by omega)]
    · rw [length_pack]
      omega

/-- In lower case, digits are what is written for the bytes that they spell. -/
theorem encode_of_spells {ds : List Char} {bs : List UInt8} (h : Spells ds bs) :
    encode bs = String.ofList (ds.map Char.toLower) := by
  have hlower : ∀ n : Nibble, n.val.digitChar.toLower = digit n := by decide
  have hupper : ∀ n : Nibble, n.val.digitChar.toUpper.toLower = digit n := by decide
  have hdigit {c : Char} {n : Nibble} (hc : IsHexDigit n.val c) : c.toLower = digit n := by
    obtain ⟨-, rfl | rfl⟩ := hc
    · exact hlower n
    · exact hupper n
  have hdigits {cs : List Char} {ns : List Nibble} (hcs : Digits cs ns) : ns.map digit = cs.map Char.toLower := by
    induction hcs with
    | nil => rfl
    | cons hc _ ih => rw [List.map_cons, List.map_cons, ih, hdigit hc]
  rw [encode, hdigits (spells_iff.1 h)]

/-- What is written for bytes spells them. -/
theorem spells_encode (bs : List UInt8) : Spells (encode bs).toList bs := by
  rw [spells_iff, encode, String.toList_ofList, Digits, List.forall₂_map_left_iff]
  exact List.forall₂_same.2 fun n _ => ⟨n.isLt, .inl rfl⟩

end RemoteStaking.Hex
