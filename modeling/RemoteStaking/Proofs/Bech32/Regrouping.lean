import RemoteStaking.Bech32.Basic

/-!
# `RemoteStaking.Proofs.Bech32.Regrouping` — five bits and eight bits

Bytes are cut into digits of five bits for writing and put together again for reading. Nothing is lost on the way, so
under one human-readable part two accounts never share a name.

## Contents
- **One group.** Eight bits spell a byte and five bits a digit, each of which gives its bits back.
- **All groups.** `flatMap_digitsOfBits`: the digits give the bits back, and zeros after them; `bytes_digits`: the
  digits of bytes give the bytes back; `length_digits`: how many digits there are.
- **Names.** `toBech32_inj`.
-/

namespace RemoteStaking

namespace Bech32

/-! ## One group -/

theorem bitsOfDigit_digitOfBits : ∀ a b c d e : Bool,
    bitsOfDigit (digitOfBits [a, b, c, d, e]) = [a, b, c, d, e] := by
  decide

theorem byteOfBits_bitsOfNat : ∀ n : Fin 256,
    byteOfBits (bitsOfByte (UInt8.ofNat n.val)) = UInt8.ofNat n.val := by
  decide +kernel

theorem byteOfBits_bitsOfByte (b : UInt8) : byteOfBits (bitsOfByte b) = b := by
  have h := byteOfBits_bitsOfNat ⟨b.toNat, b.toNat_lt⟩
  rwa [UInt8.ofNat_toNat] at h

/-! ## All groups -/

/-- How many zeros fill up the last group of five. -/
def zerosToFive (n : Nat) : Nat :=
  (5 - n % 5) % 5

theorem flatMap_digitsOfBits (bits : List Bool) :
    (digitsOfBits bits).flatMap bitsOfDigit = bits ++ List.replicate (zerosToFive bits.length) false := by
  induction bits using digitsOfBits.induct with
  | case1 => rfl
  | case2 a b c d e rest ih =>
    have hlen : zerosToFive (a :: b :: c :: d :: e :: rest).length = zerosToFive rest.length := by
      unfold zerosToFive
      simp only [List.length_cons]
      omega
    rw [hlen]
    unfold digitsOfBits
    rw [List.flatMap_cons, bitsOfDigit_digitOfBits, ih]
    rfl
  | case3 short hne hlong =>
    -- fewer than five bits are left, and the zeros are those that fill them up
    match short, hne, hlong with
    | [a], _, _ => exact bitsOfDigit_digitOfBits a false false false false
    | [a, b], _, _ => exact bitsOfDigit_digitOfBits a b false false false
    | [a, b, c], _, _ => exact bitsOfDigit_digitOfBits a b c false false
    | [a, b, c, d], _, _ => exact bitsOfDigit_digitOfBits a b c d false
    | [], hne, _ => exact absurd rfl hne
    | a :: b :: c :: d :: e :: rest, _, hlong => exact (hlong a b c d e rest rfl).elim

theorem bytesOfBits_short {bits : List Bool} (h : bits.length < 8) : bytesOfBits bits = ([], bits) := by
  unfold bytesOfBits
  split
  · simp only [List.length_cons] at h
    omega
  · rfl

theorem bytesOfBits_flatMap (bs : List UInt8) {left : List Bool} (h : left.length < 8) :
    bytesOfBits (bs.flatMap bitsOfByte ++ left) = (bs, left) := by
  induction bs with
  | nil => exact bytesOfBits_short h
  | cons b bs ih =>
    rw [List.flatMap_cons, List.append_assoc]
    show (byteOfBits (bitsOfByte b) :: (bytesOfBits (bs.flatMap bitsOfByte ++ left)).1,
      (bytesOfBits (bs.flatMap bitsOfByte ++ left)).2) = (b :: bs, left)
    rw [ih, byteOfBits_bitsOfByte]

/-- **Reading undoes writing.** The digits of bytes give the bytes back; what is left over are the zeros that filled up
    the last digit. -/
theorem bytes_digits (bs : List UInt8) :
    bytes (digits bs) = (bs, List.replicate (zerosToFive (bs.flatMap bitsOfByte).length) false) := by
  unfold bytes digits
  rw [flatMap_digitsOfBits]
  apply bytesOfBits_flatMap
  rw [List.length_replicate]
  unfold zerosToFive
  omega

/-- Five bits a digit, eight a byte, and the zeros that fill up the last digit. -/
theorem length_digits (bs : List UInt8) : 5 * (digits bs).length = 8 * bs.length + zerosToFive (8 * bs.length) := by
  have hbits : (bs.flatMap bitsOfByte).length = 8 * bs.length := by
    simp [List.length_flatMap, bitsOfByte, List.map_const', Nat.mul_comm]
  have hdigits : ((digits bs).flatMap bitsOfDigit).length = 5 * (digits bs).length := by
    simp [List.length_flatMap, bitsOfDigit, List.map_const', Nat.mul_comm]
  rw [← hdigits, digits, flatMap_digitsOfBits, List.length_append, List.length_replicate, hbits]

theorem digits_inj {bs bs' : List UInt8} (h : digits bs = digits bs') : bs = bs' := by
  have hb := congrArg bytes h
  rw [bytes_digits, bytes_digits] at hb
  exact congrArg Prod.fst hb

/-! ## Names -/

theorem letter_inj {d d' : Digit} (h : letter d = letter d') : d = d' := by
  have hd := congrArg digit? h
  rw [digit?_letter, digit?_letter] at hd
  exact Option.some.inj hd

theorem length_checksum (hrp : List UInt8) (data : List Digit) : (checksum hrp data).length = 6 := by
  simp only [checksum, residueDigits, List.length_map, List.length_cons, List.length_nil]

/-- Under one human-readable part, a text is the name of one list of bytes at most. -/
theorem encode_inj {hrp : String} {bs bs' : List UInt8} (h : encode hrp bs = encode hrp bs') : bs = bs' := by
  have ht := congrArg String.toList h
  simp only [encode, String.toList_append, String.toList_ofList] at ht
  -- without the part and the separator in front and the checksum of six letters behind, the digits are left
  have hdata := List.map_inj_right (fun _ _ => letter_inj) |>.1 (List.append_cancel_left ht)
  exact digits_inj (List.append_inj_left' hdata (by rw [length_checksum, length_checksum]))

end Bech32

/-- **Names are unambiguous.** Under one human-readable part, different accounts have different names. -/
theorem Address.toBech32_inj {hrp : String} {a b : Address} (h : a.toBech32 hrp = b.toBech32 hrp) : a = b := by
  cases a
  cases b
  cases Bech32.encode_inj h
  rfl

end RemoteStaking
