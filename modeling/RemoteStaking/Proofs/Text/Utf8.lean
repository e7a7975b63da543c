import RemoteStaking.Text.Utf8

/-!
# `RemoteStaking.Proofs.Text.Utf8` — what was written as UTF-8 is read back

Reading never fails, so it has to be shown that nothing is replaced when the bytes are those of a text. The machine is
followed over the bytes of one character, by their number; the value it has gathered is that of the character cut off at
the bytes read so far.

## Contents
- **Tails.** `step_last`, `step_owed`: a byte that adds six bits.
- **First bytes.** `first_two`, `first_three`, `first_four`: what they leave pending, and that the next byte is in bounds.
- **`decodeFrom_encodeChar`**: one character. **`decodeLossy_utf8`**: a text, and so `utf8_inj`.
-/

namespace RemoteStaking.Utf8

/-! ## Tails -/

theorem toNat_tail (n : Nat) : (UInt8.ofNat (n % 64 + 128)).toNat = n % 64 + 128 := by
  rw [UInt8.toNat_ofNat']
  omega

section Tails

variable {value owed low high n : Nat}

/-- The last byte completes the character. -/
theorem step_last (hlow : low ≤ n % 64 + 128) (hhigh : n % 64 + 128 ≤ high) :
    (⟨value, 0, low, high⟩ : Pending).step (UInt8.ofNat (n % 64 + 128)) = .complete (Char.ofNat (value * 64 + n % 64)) := by
  simp only [Pending.step, toNat_tail]
  rw [if_pos ⟨hlow, hhigh⟩, Nat.add_sub_cancel]

/-- Any byte before it leaves one byte less to come, which is not bounded further. -/
theorem step_owed (hlow : low ≤ n % 64 + 128) (hhigh : n % 64 + 128 ≤ high) :
    (⟨value, owed + 1, low, high⟩ : Pending).step (UInt8.ofNat (n % 64 + 128)) =
      .more ⟨value * 64 + n % 64, owed, 0x80, 0xBF⟩ := by
  simp only [Pending.step, toNat_tail]
  rw [if_pos ⟨hlow, hhigh⟩, Nat.add_sub_cancel]

end Tails

/-! ## First bytes -/

section First

variable {v : Nat}

theorem first_one (h : v ≤ 0x7F) : first (UInt8.ofNat v) = .complete (Char.ofNat v) := by
  have hbyte : (UInt8.ofNat v).toNat = v := by
    rw [UInt8.toNat_ofNat']
    omega
  simp only [first, hbyte]
  rw [if_pos (by omega)]

theorem first_two (hlow : 0x7F < v) (hhigh : v ≤ 0x7FF) :
    first (UInt8.ofNat (v / 64 % 32 + 192)) = .more ⟨v / 64, 0, 0x80, 0xBF⟩ := by
  have hbyte : (UInt8.ofNat (v / 64 % 32 + 192)).toNat = v / 64 + 192 := by
    rw [UInt8.toNat_ofNat']
    omega
  simp only [first, hbyte]
  rw [if_neg (by omega), if_neg (by omega), if_pos (by omega), Nat.add_sub_cancel]

/-- After `E0` and `ED` the bounds are narrower, and a character that is neither overlong nor a surrogate keeps to them. -/
theorem first_three (hlow : 0x7FF < v) (hhigh : v ≤ 0xFFFF) (hchar : v < 0xD800 ∨ 0xDFFF < v) :
    ∃ low high, first (UInt8.ofNat (v / 4096 % 16 + 224)) = .more ⟨v / 4096, 1, low, high⟩ ∧
      low ≤ v / 64 % 64 + 128 ∧ v / 64 % 64 + 128 ≤ high := by
  have hbyte : (UInt8.ofNat (v / 4096 % 16 + 224)).toNat = v / 4096 + 224 := by
    rw [UInt8.toNat_ofNat']
    omega
  simp only [first, hbyte]
  rw [if_neg (by omega), if_neg (by omega), if_neg (by omega)]
  by_cases hzero : v / 4096 = 0
  · rw [if_pos (by omega), hzero]
    exact ⟨_, _, rfl, by omega, by omega⟩
  by_cases hthirteen : v / 4096 = 13
  · rw [if_neg (by omega), if_pos (by omega), hthirteen]
    exact ⟨_, _, rfl, by omega, by omega⟩
  · rw [if_neg (by omega), if_neg (by omega), if_pos (by omega), Nat.add_sub_cancel]
    exact ⟨_, _, rfl, by omega, by omega⟩

/-- The same after `F0` and `F4`, for characters that are neither overlong nor beyond the last one. -/
theorem first_four (hlow : 0xFFFF < v) (hhigh : v < 0x110000) :
    ∃ low high, first (UInt8.ofNat (v / 262144 % 8 + 240)) = .more ⟨v / 262144, 2, low, high⟩ ∧
      low ≤ v / 4096 % 64 + 128 ∧ v / 4096 % 64 + 128 ≤ high := by
  have hbyte : (UInt8.ofNat (v / 262144 % 8 + 240)).toNat = v / 262144 + 240 := by
    rw [UInt8.toNat_ofNat']
    omega
  simp only [first, hbyte]
  rw [if_neg (by omega), if_neg (by omega), if_neg (by omega), if_neg (by omega), if_neg (by omega), if_neg (by omega)]
  by_cases hzero : v / 262144 = 0
  · rw [if_pos (by omega), hzero]
    exact ⟨_, _, rfl, by omega, by omega⟩
  by_cases hfour : v / 262144 = 4
  · rw [if_neg (by omega), if_neg (by omega), if_pos (by omega), hfour]
    exact ⟨_, _, rfl, by omega, by omega⟩
  · rw [if_neg (by omega), if_pos (by omega), Nat.add_sub_cancel]
    exact ⟨_, _, rfl, by omega, by omega⟩

end First

/-! ## Texts -/

/-- **One character is read back**, whatever comes after it. -/
theorem decodeFrom_encodeChar (c : Char) (bs : List UInt8) :
    decodeFrom none (String.utf8EncodeChar c ++ bs) = c :: decodeFrom none bs := by
  obtain ⟨v, hv⟩ : ∃ v, v = c.val.toNat := ⟨_, rfl⟩
  have hchar : v < 0xD800 ∨ 0xDFFF < v ∧ v < 0x110000 := hv ▸ c.valid
  have hc : Char.ofNat v = c := hv ▸ Char.ofNat_toNat c
  rw [String.utf8EncodeChar, ← hv]
  by_cases hone : v ≤ 0x7F
  · rw [if_pos hone]
    simp only [List.cons_append, List.nil_append, decodeFrom, first_one hone, hc]
  by_cases htwo : v ≤ 0x7FF
  · rw [if_neg hone, if_pos htwo]
    have hvalue : v / 64 * 64 + v % 64 = v := Nat.div_add_mod' v 64
    simp only [List.cons_append, List.nil_append, decodeFrom, first_two (Nat.lt_of_not_le hone) htwo]
    rw [step_last (by omega) (by omega), hvalue, hc]
  by_cases hthree : v ≤ 0xFFFF
  · rw [if_neg hone, if_neg htwo, if_pos hthree]
    obtain ⟨low, high, hfirst, hlow, hhigh⟩ := first_three (Nat.lt_of_not_le htwo) hthree (by omega)
    have hvalue : (v / 4096 * 64 + v / 64 % 64) * 64 + v % 64 = v := by omega
    simp only [List.cons_append, List.nil_append, decodeFrom, hfirst, step_owed hlow hhigh]
    rw [step_last (by omega) (by omega), hvalue, hc]
  · rw [if_neg hone, if_neg htwo, if_neg hthree]
    obtain ⟨low, high, hfirst, hlow, hhigh⟩ := first_four (Nat.lt_of_not_le hthree) (by omega)
    have hvalue : ((v / 262144 * 64 + v / 4096 % 64) * 64 + v / 64 % 64) * 64 + v % 64 = v := by omega
    have hthird : (⟨v / 262144 * 64 + v / 4096 % 64, 1, 0x80, 0xBF⟩ : Pending).step (UInt8.ofNat (v / 64 % 64 + 128)) =
        .more ⟨(v / 262144 * 64 + v / 4096 % 64) * 64 + v / 64 % 64, 0, 0x80, 0xBF⟩ :=
      step_owed (by omega) (by omega)
    simp only [List.cons_append, List.nil_append, decodeFrom, hfirst, step_owed hlow hhigh, hthird]
    rw [step_last (by omega) (by omega), hvalue, hc]

theorem decodeFrom_encode (cs : List Char) : decodeFrom none (encode cs) = cs := by
  induction cs with
  | nil => rfl
  | cons c cs ih => rw [encode_cons, decodeFrom_encodeChar, ih]

/-- **A text is read back** from its bytes. -/
theorem decodeLossy_utf8 (s : String) : decodeLossy (utf8 s) = s := by
  rw [decodeLossy, utf8, decodeFrom_encode, String.ofList_toList]

theorem utf8_inj {s t : String} (h : utf8 s = utf8 t) : s = t := by
  rw [← decodeLossy_utf8 s, h, decodeLossy_utf8]

end RemoteStaking.Utf8
