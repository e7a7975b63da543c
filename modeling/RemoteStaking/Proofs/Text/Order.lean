import RemoteStaking.Text.Utf8

/-!
# `RemoteStaking.Proofs.Text.Order` — texts in order have their bytes in order

Texts are compared by the code points of their characters, and so are the names under which coins are kept. That is also
the order of their UTF-8 bytes: a character of fewer bytes has the smaller first byte, and among characters of as many
bytes the first byte that differs is the one in which the code points differ.

## Contents
- **Bytes.** `byte_lt`, `byte_eq`: a list is before another at the first byte that differs.
- **The same first bytes.** `lastByte_lt`, `lastTwo_lt`, `lastThree_lt`: the bytes that are left, by their number.
- **`encodeChar_lt`**: one character. **`utf8_lt_of_lt`**: a text.
-/

namespace RemoteStaking.Utf8

/-! ## Bytes -/

section Bytes

variable {m n v w : Nat} {xs ys : List UInt8}

theorem byte_lt (h : m < n) (hn : n < 256) : UInt8.ofNat m :: xs < UInt8.ofNat n :: ys := by
  have hlt : UInt8.ofNat m < UInt8.ofNat n := by
    rw [UInt8.lt_iff_toNat_lt, UInt8.toNat_ofNat', UInt8.toNat_ofNat']
    omega
  exact List.cons_lt_cons_iff.2 (.inl hlt)

theorem byte_eq (h : m = n) (hlt : xs < ys) : UInt8.ofNat m :: xs < UInt8.ofNat n :: ys :=
  List.cons_lt_cons_iff.2 (.inr ⟨congrArg UInt8.ofNat h, hlt⟩)

/-! ## The same first bytes -/

theorem lastByte_lt (h : v < w) (hsame : v / 64 = w / 64) :
    UInt8.ofNat (v % 64 + 128) :: xs < UInt8.ofNat (w % 64 + 128) :: ys :=
  byte_lt (by omega) (by omega)

theorem lastTwo_lt (h : v < w) (hsame : v / 4096 = w / 4096) :
    UInt8.ofNat (v / 64 % 64 + 128) :: UInt8.ofNat (v % 64 + 128) :: xs <
      UInt8.ofNat (w / 64 % 64 + 128) :: UInt8.ofNat (w % 64 + 128) :: ys := by
  by_cases hnext : v / 64 = w / 64
  · exact byte_eq (by omega) (lastByte_lt h hnext)
  · exact byte_lt (by omega) (by omega)

theorem lastThree_lt (h : v < w) (hsame : v / 262144 = w / 262144) :
    UInt8.ofNat (v / 4096 % 64 + 128) :: UInt8.ofNat (v / 64 % 64 + 128) :: UInt8.ofNat (v % 64 + 128) :: xs <
      UInt8.ofNat (w / 4096 % 64 + 128) :: UInt8.ofNat (w / 64 % 64 + 128) :: UInt8.ofNat (w % 64 + 128) :: ys := by
  by_cases hnext : v / 4096 = w / 4096
  · exact byte_eq (by omega) (lastTwo_lt h hnext)
  · exact byte_lt (by omega) (by omega)

end Bytes

/-! ## Characters and texts -/

/-- **Characters in order have their bytes in order**, whatever comes after them. -/
theorem encodeChar_lt {c d : Char} (h : c < d) (xs ys : List UInt8) :
    String.utf8EncodeChar c ++ xs < String.utf8EncodeChar d ++ ys := by
  obtain ⟨v, hv⟩ : ∃ v, v = c.val.toNat := ⟨_, rfl⟩
  obtain ⟨w, hw⟩ : ∃ w, w = d.val.toNat := ⟨_, rfl⟩
  have hlt : v < w := hv ▸ hw ▸ UInt32.lt_iff_toNat_lt.1 h
  have hchar : w < 0xD800 ∨ 0xDFFF < w ∧ w < 0x110000 := hw ▸ d.valid
  rw [String.utf8EncodeChar, String.utf8EncodeChar, ← hv, ← hw]
  -- by the number of bytes of the greater character, then of the other one
  by_cases hone : w ≤ 0x7F
  · rw [if_pos hone, if_pos (by omega)]
    exact byte_lt hlt (by omega)
  rw [if_neg hone]
  by_cases htwo : w ≤ 0x7FF
  · rw [if_pos htwo]
    by_cases hv1 : v ≤ 0x7F
    · rw [if_pos hv1]
      exact byte_lt (by omega) (by omega)
    rw [if_neg hv1, if_pos (by omega)]
    by_cases hsame : v / 64 = w / 64
    · exact byte_eq (by omega) (lastByte_lt hlt hsame)
    · exact byte_lt (by omega) (by omega)
  rw [if_neg htwo]
  by_cases hthree : w ≤ 0xFFFF
  · rw [if_pos hthree]
    by_cases hv1 : v ≤ 0x7F
    · rw [if_pos hv1]
      exact byte_lt (by omega) (by omega)
    rw [if_neg hv1]
    by_cases hv2 : v ≤ 0x7FF
    · rw [if_pos hv2]
      exact byte_lt (by omega) (by omega)
    rw [if_neg hv2, if_pos (by omega)]
    by_cases hsame : v / 4096 = w / 4096
    · exact byte_eq (by omega) (lastTwo_lt hlt hsame)
    · exact byte_lt (by omega) (by omega)
  · rw [if_neg hthree]
    by_cases hv1 : v ≤ 0x7F
    · rw [if_pos hv1]
      exact byte_lt (by omega) (by omega)
    rw [if_neg hv1]
    by_cases hv2 : v ≤ 0x7FF
    · rw [if_pos hv2]
      exact byte_lt (by omega) (by omega)
    rw [if_neg hv2]
    by_cases hv3 : v ≤ 0xFFFF
    · rw [if_pos hv3]
      exact byte_lt (by omega) (by omega)
    rw [if_neg hv3]
    by_cases hsame : v / 262144 = w / 262144
    · exact byte_eq (by omega) (lastThree_lt hlt hsame)
    · exact byte_lt (by omega) (by omega)

theorem encode_lt_of_lt {cs ds : List Char} (h : cs < ds) : encode cs < encode ds := by
  induction h with
  | @nil d ds =>
    -- every character has a byte
    cases hbytes : encode (d :: ds) with
    | nil => exact absurd hbytes (by simp [String.utf8EncodeChar_ne_nil])
    | cons b bs => exact List.nil_lt_cons b bs
  | rel hlt => exact encodeChar_lt hlt _ _
  | cons _ ih => exact List.append_left_lt ih

/-- **Texts in order have their bytes in order.** -/
theorem utf8_lt_of_lt {s t : String} (h : s < t) : utf8 s < utf8 t :=
  encode_lt_of_lt h

end RemoteStaking.Utf8
