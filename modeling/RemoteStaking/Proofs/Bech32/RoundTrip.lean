import RemoteStaking.Proofs.Bech32.Checksum
import RemoteStaking.Proofs.Bech32.Regrouping

/-!
# `RemoteStaking.Proofs.Bech32.RoundTrip` — names are read back

A name is written under any human-readable part at all. Reading it finds the separator again, since no letter is a `1`,
and the digits; and the checksum verifies, since it was made to. But reading is stricter than writing about the part in
front: characters that do not show in ASCII are refused, and capital letters are lowered before the checksum is looked at.
So a name is read back if its part is of small letters, digits and signs, and whether a name can be read at all depends on
the part alone.

## Contents
- **Letters.** `digits_of_letters`, `splitAtLastOne_append`: the letters behind the last separator give the digits back.
- **`decode_encode`**: what reading makes of any name that was written. `Bech32.Legible`, `exists_decode_iff`: under which
  parts something is read.
- **`Bech32.IsPlain`**: parts that are read as they are written. `legible_of_plain`, `decode_encode_of_plain`.
-/

namespace RemoteStaking.Bech32

/-! ## Letters -/

theorem letter_ne_one : ∀ d : Digit, letter d ≠ '1' := by
  decide

theorem isBlank_letter : ∀ d : Digit, isBlank (letter d) = false := by
  decide

theorem digits_of_letters (ds : List Digit) : (ds.map letter).mapM digit? = some ds := by
  induction ds with
  | nil => rfl
  | cons d ds ih =>
    rw [List.map_cons, List.mapM_cons, digit?_letter, ih]
    rfl

theorem splitAtLastOne_eq_none {cs : List Char} (h : '1' ∉ cs) : splitAtLastOne cs = none := by
  induction cs with
  | nil => rfl
  | cons c cs ih =>
    obtain ⟨hc, hcs⟩ := not_or.1 (fun hmem => h (List.mem_cons.2 hmem))
    rw [splitAtLastOne, ih hcs]
    exact if_neg (fun heq => hc heq.symm)

/-- The last separator is the one that no further one follows. -/
theorem splitAtLastOne_append {cs : List Char} (h : '1' ∉ cs) (hrp : List Char) :
    splitAtLastOne (hrp ++ '1' :: cs) = some (hrp, cs) := by
  induction hrp with
  | nil =>
    rw [List.nil_append, splitAtLastOne, splitAtLastOne_eq_none h]
    exact if_pos rfl
  | cons c hrp ih => rw [List.cons_append, splitAtLastOne, ih]

theorem length_le_length_encode (cs : List Char) : cs.length ≤ (Utf8.encode cs).length := by
  induction cs with
  | nil => exact Nat.zero_le _
  | cons c cs ih =>
    have hpos : 0 < c.utf8Size := c.utf8Size_pos
    simp only [Utf8.encode_cons, List.length_append, List.length_cons, String.length_utf8EncodeChar]
    omega

/-! ## Names -/

section Reading

variable {text : String} {hrp : List Char} {ds : List Digit}

/-- A text of letters does not end in a blank. -/
theorem endsBlank_of_letters (h : text.toList = hrp ++ '1' :: ds.map letter) : endsBlank text = false := by
  unfold endsBlank
  rw [h, List.getLast?_append]
  cases hlast : ('1' :: ds.map letter).getLast? with
  | none => simp at hlast
  | some c =>
    have hmem : c ∈ '1' :: ds.map letter := List.mem_of_getLast? hlast
    rcases List.mem_cons.1 hmem with rfl | hmem
    · rfl
    · obtain ⟨d, -, rfl⟩ := List.mem_map.1 hmem
      exact isBlank_letter d

theorem splitAtLastOne_of_letters (h : text.toList = hrp ++ '1' :: ds.map letter) :
    splitAtLastOne text.toList = some (hrp, ds.map letter) := by
  rw [h]
  apply splitAtLastOne_append
  intro hmem
  obtain ⟨d, -, hd⟩ := List.mem_map.1 hmem
  exact letter_ne_one d hd

theorem decode_of_no_part (h : text.toList = hrp ++ '1' :: ds.map letter) (hpart : hrp? hrp = none) :
    decode text = .error .badEncoding := by
  unfold decode
  simp only [endsBlank_of_letters h, splitAtLastOne_of_letters h, hpart, Bool.false_eq_true, if_false]

/-- The part and the digits are found; whether they are accepted is left to see. -/
theorem decode_of_part {low : List Char} (h : text.toList = hrp ++ '1' :: ds.map letter) (hlength : 6 ≤ ds.length)
    (hpart : hrp? hrp = some low) : decode text =
      if verifies (Utf8.encode low) ds then
        if (bytes (ds.take (ds.length - 6))).2.length < 5 ∧ (bytes (ds.take (ds.length - 6))).2.all (· = false) then
          .ok (String.ofList low, (bytes (ds.take (ds.length - 6))).1)
        else .error .badPadding
      else .error .checksumMismatch := by
  have hroom : ¬ (Utf8.encode (ds.map letter)).length < 6 := by
    have hle := length_le_length_encode (ds.map letter)
    rw [List.length_map] at hle
    omega
  unfold decode
  simp only [endsBlank_of_letters h, splitAtLastOne_of_letters h, hpart, hroom, digits_of_letters, Bool.false_eq_true,
    if_false]

end Reading

/-- Two human-readable parts lead to the same residue. -/
def Alike (low : List Char) (hrp : String) : Prop :=
  remainder (expand (Utf8.encode low)) = remainder (expand (utf8 hrp))

instance (low : List Char) (hrp : String) : Decidable (Alike low hrp) :=
  inferInstanceAs (Decidable (remainder _ = remainder _))

/-- **What reading makes of a name.** The bytes come back, under the lowered part, unless there is no such part or it does
    not lead to the residue of the part under which the name was written. -/
theorem decode_encode (hrp : String) (bs : List UInt8) : decode (encode hrp bs) =
    match hrp? hrp.toList with
    | none => .error .badEncoding
    | some low => if Alike low hrp then .ok (String.ofList low, bs) else .error .checksumMismatch := by
  have htext : (encode hrp bs).toList =
      hrp.toList ++ '1' :: (digits bs ++ checksum (utf8 hrp) (digits bs)).map letter := by
    simp [encode]
  have hlength : (digits bs ++ checksum (utf8 hrp) (digits bs)).length = (digits bs).length + 6 := by
    rw [List.length_append, length_checksum]
  have hdata : (digits bs ++ checksum (utf8 hrp) (digits bs)).take
      ((digits bs ++ checksum (utf8 hrp) (digits bs)).length - 6) = digits bs := by
    rw [hlength, Nat.add_sub_cancel, List.take_left]
  have hpadding : zerosToFive (bs.flatMap bitsOfByte).length < 5 := Nat.mod_lt _ (by decide)
  have hzeros (n : Nat) : (List.replicate n false).all (· = false) = true := by simp
  cases hpart : hrp? hrp.toList with
  | none => exact decode_of_no_part htext hpart
  | some low =>
    rw [decode_of_part htext (by omega) hpart]
    simp only [hdata, bytes_digits, verifies_checksum_iff, List.length_replicate, hpadding, hzeros, and_self, if_true]
    rfl

/-- **Names under the part can be read**: there is a lowered part, and it leads to the same residue. -/
def Legible (hrp : String) : Prop :=
  ∃ low, hrp? hrp.toList = some low ∧ Alike low hrp

/-- Whether a name can be read depends on its part alone, and not on the bytes. -/
theorem exists_decode_iff (hrp : String) (bs : List UInt8) : (∃ r, decode (encode hrp bs) = .ok r) ↔ Legible hrp := by
  rw [decode_encode]
  unfold Legible
  cases hrp? hrp.toList with
  | none => simp
  | some low =>
    by_cases h : Alike low hrp <;> simp [h]

/-! ## Plain parts -/

/-- A part that is read as it is written: there is something in it, and nothing but characters of ASCII that show and are
    no capital letters. -/
def IsPlain (hrp : String) : Prop :=
  hrp ≠ "" ∧ ∀ c ∈ hrp.toList, '!' ≤ c ∧ c ≤ '~' ∧ c.isUpper = false

theorem hrpChar?_of_plain {c : Char} (hlow : '!' ≤ c) (hhigh : c ≤ '~') (hupper : c.isUpper = false) :
    hrpChar? c = some c := by
  have hkelvin : c ≠ '\u212A' := by
    rintro rfl
    exact absurd hhigh (by decide)
  have hlower : c.toLower = c := by
    have hsmall : ¬ ('A' ≤ c ∧ c ≤ 'Z') := of_decide_eq_false hupper
    exact dif_neg hsmall
  rw [hrpChar?, if_neg hkelvin, if_pos ⟨hlow, hhigh⟩, hlower]

theorem hrp?_of_plain {hrp : String} (h : IsPlain hrp) : hrp? hrp.toList = some hrp.toList := by
  have hmap (cs : List Char) (hcs : ∀ c ∈ cs, hrpChar? c = some c) : cs.mapM hrpChar? = some cs := by
    induction cs with
    | nil => rfl
    | cons c cs ih =>
      rw [List.mapM_cons, hcs c List.mem_cons_self, ih fun d hd => hcs d (List.mem_cons_of_mem c hd)]
      rfl
  obtain ⟨hne, hchars⟩ := h
  have hsome : hrp.toList.isEmpty = false := by
    rw [List.isEmpty_eq_false_iff]
    exact fun hnil => hne (String.toList_eq_nil_iff.1 hnil)
  rw [hrp?, hsome]
  apply hmap
  intro c hc
  obtain ⟨hlow, hhigh, hupper⟩ := hchars c hc
  exact hrpChar?_of_plain hlow hhigh hupper

theorem legible_of_plain {hrp : String} (h : IsPlain hrp) : Legible hrp :=
  ⟨hrp.toList, hrp?_of_plain h, rfl⟩

/-- **Reading undoes writing** under a plain part: the part and the bytes come back. -/
theorem decode_encode_of_plain {hrp : String} (h : IsPlain hrp) (bs : List UInt8) :
    decode (encode hrp bs) = .ok (hrp, bs) := by
  have halike : Alike hrp.toList hrp := rfl
  rw [decode_encode, hrp?_of_plain h]
  simp only [halike, if_true, String.ofList_toList]

end RemoteStaking.Bech32
