import RemoteStaking.Bech32.Checksum

/-!
# `RemoteStaking.Proofs.Bech32.Checksum` — what is written under a checksum passes it

Taking in a digit is linear in exclusive or. So what six more digits make of a residue is what six zeros make of it, and
to that the digits added as they stand: the checksum has to be what is missing to one.

Nothing is lost when a digit is taken in. Two texts that have led to different residues still have after any digits that
both go on with.

## Contents
- **Feedback.** `feedback_xor`: it is linear. `feedback_of_clear`: it is nothing if a zero leaves.
- **Digits.** `step_xor`, `foldl_step_xor`: taking them in is linear. `foldl_residueDigits`: the digits of a residue spell
  it.
- **`verifies_checksum`**: the checksum verifies.
- **Nothing is lost.** `step_inj`, `foldl_step_inj`, and `verifies_checksum_iff`: under which other human-readable parts a
  text passes as well.
-/

namespace RemoteStaking.Bech32

/-! ## Feedback -/

/-- A generator if the bit that it stands for is set. -/
def selected (b : Bool) (g : Residue) : Residue :=
  if b then g else 0#30

theorem selected_xor (a b : Bool) (g : Residue) : selected (a ^^ b) g = selected a g ^^^ selected b g := by
  cases a <;> cases b <;> simp [selected]

/-- The feedback of any generators, added to a sum. -/
def feedbackFrom (r sum : Residue) (gs : List (Residue × Nat)) : Residue :=
  gs.foldl (fun sum (g, i) => if r.getLsbD (25 + i) then sum ^^^ g else sum) sum

theorem feedbackFrom_cons (r sum g : Residue) (i : Nat) (gs : List (Residue × Nat)) :
    feedbackFrom r sum ((g, i) :: gs) = feedbackFrom r (sum ^^^ selected (r.getLsbD (25 + i)) g) gs := by
  unfold feedbackFrom selected
  cases h : r.getLsbD (25 + i) <;> simp [h]

theorem feedbackFrom_xor (r s a b : Residue) (gs : List (Residue × Nat)) :
    feedbackFrom (r ^^^ s) (a ^^^ b) gs = feedbackFrom r a gs ^^^ feedbackFrom s b gs := by
  induction gs generalizing a b with
  | nil => rfl
  | cons gi gs ih =>
    obtain ⟨g, i⟩ := gi
    simp only [feedbackFrom_cons, BitVec.getLsbD_xor, selected_xor]
    rw [← ih]
    congr 1
    ac_rfl

theorem feedback_xor (r s : Residue) : feedback (r ^^^ s) = feedback r ^^^ feedback s :=
  feedbackFrom_xor r s 0 0 generators.zipIdx

theorem feedbackFrom_of_clear {r : Residue} (h : ∀ i, r.getLsbD (25 + i) = false) (sum : Residue)
    (gs : List (Residue × Nat)) : feedbackFrom r sum gs = sum := by
  induction gs with
  | nil => rfl
  | cons gi gs ih =>
    obtain ⟨g, i⟩ := gi
    simp only [feedbackFrom_cons, h, selected, Bool.false_eq_true, if_false, BitVec.xor_zero, ih]

theorem feedback_of_clear {r : Residue} (h : ∀ i, r.getLsbD (25 + i) = false) : feedback r = 0#30 :=
  feedbackFrom_of_clear h 0#30 generators.zipIdx

/-! ## Taking in digits -/

theorem step_xor (r s : Residue) (d : Digit) : step (r ^^^ s) d = step r 0 ^^^ step s d := by
  have hzero : BitVec.ofNat 30 (0 : Digit).val = 0#30 := rfl
  simp only [step, feedback_xor, BitVec.shiftLeft_xor_distrib, hzero, BitVec.xor_zero]
  ac_rfl

theorem foldl_step_xor (r s : Residue) (ds : List Digit) :
    ds.foldl step (r ^^^ s) = (List.replicate ds.length 0).foldl step r ^^^ ds.foldl step s := by
  induction ds generalizing r s with
  | nil => rfl
  | cons d ds ih =>
    simp only [List.length_cons, List.replicate_succ, List.foldl_cons]
    rw [step_xor, ih]

/-! ## The digits of a residue -/

theorem lowBits_lt (r : Residue) (i : Nat) : (r >>> i).toNat % 32 < 32 :=
  Nat.mod_lt _ (by decide)

/-- The five bits of a residue from a place on. -/
def digitAt (r : Residue) (i : Nat) : Digit :=
  ⟨(r >>> i).toNat % 32, lowBits_lt r i⟩

/-- What is above a digit, moved up, and the digit. Nothing leaves at the top. -/
theorem step_digitAt (r : Residue) (i : Nat) : step (r >>> (i + 5)) (digitAt r i) = r >>> i := by
  have hclear : ∀ j, (r >>> (i + 5)).getLsbD (25 + j) = false := by
    intro j
    rw [BitVec.getLsbD_ushiftRight]
    exact BitVec.getLsbD_of_ge _ _ (by omega)
  have hdigit : ∀ j, (digitAt r i).val.testBit j = (decide (j < 5) && (r >>> i).getLsbD j) := by
    intro j
    show ((r >>> i).toNat % 2 ^ 5).testBit j = _
    rw [Nat.testBit_mod_two_pow, BitVec.testBit_toNat]
  unfold step
  rw [feedback_of_clear hclear, BitVec.xor_zero]
  apply BitVec.eq_of_getLsbD_eq
  intro j hj
  simp only [BitVec.getLsbD_xor, BitVec.getLsbD_shiftLeft, BitVec.getLsbD_ofNat, hj, decide_true, Bool.true_and, hdigit]
  by_cases hlow : j < 5
  · simp [hlow]
  · have hplace : i + 5 + (j - 5) = i + j := by omega
    simp [hlow, hplace]

/-- The digits of a residue spell it. -/
theorem foldl_residueDigits (r : Residue) : (residueDigits r).foldl step 0#30 = r := by
  have hstart : 0#30 = r >>> (25 + 5) := (BitVec.ushiftRight_eq_zero (by decide)).symm
  show [digitAt r 25, digitAt r 20, digitAt r 15, digitAt r 10, digitAt r 5, digitAt r 0].foldl step 0#30 = r
  simp only [List.foldl_cons, List.foldl_nil, hstart]
  rw [step_digitAt r 25, step_digitAt r 20, step_digitAt r 15, step_digitAt r 10, step_digitAt r 5, step_digitAt r 0]
  exact BitVec.ushiftRight_zero r

/-! ## The checksum -/

/-- Six digits at the end add what they spell to the residue that six zeros give. -/
theorem remainder_append_residueDigits (ds : List Digit) (r : Residue) :
    remainder (ds ++ residueDigits r) = remainder (ds ++ List.replicate 6 0) ^^^ r := by
  unfold remainder
  rw [List.foldl_append, List.foldl_append]
  have hsum := foldl_step_xor (ds.foldl step 1) 0#30 (residueDigits r)
  rw [BitVec.xor_zero, foldl_residueDigits] at hsum
  exact hsum

/-- **The checksum verifies.** -/
theorem verifies_checksum (hrp : List UInt8) (data : List Digit) : verifies hrp (data ++ checksum hrp data) = true := by
  unfold verifies checksum
  rw [← List.append_assoc, remainder_append_residueDigits, ← BitVec.xor_assoc, BitVec.xor_self, BitVec.zero_xor]
  decide

/-! ## Nothing is lost -/

theorem feedback_eq (r : Residue) : feedback r =
    selected (r.getLsbD 25) 0x3b6a57b2 ^^^ selected (r.getLsbD 26) 0x26508e6d ^^^ selected (r.getLsbD 27) 0x1ea119fa ^^^
      selected (r.getLsbD 28) 0x3d4233dd ^^^ selected (r.getLsbD 29) 0x2a1462b3 := by
  show feedbackFrom r 0#30 [(0x3b6a57b2, 0), (0x26508e6d, 1), (0x1ea119fa, 2), (0x3d4233dd, 3), (0x2a1462b3, 4)] = _
  simp only [feedbackFrom_cons, BitVec.zero_xor]
  rfl

/-- The lowest bits of the generators are independent: only of no generator at all do they add up to zeros. -/
theorem selected_independent : ∀ a b c d e : Bool,
    (∀ j : Fin 5, (selected a 0x3b6a57b2 ^^^ selected b 0x26508e6d ^^^ selected c 0x1ea119fa ^^^ selected d 0x3d4233dd ^^^
      selected e 0x2a1462b3).getLsbD j.val = false) →
    a = false ∧ b = false ∧ c = false ∧ d = false ∧ e = false := by
  decide

/-- Zero comes from zero only. -/
theorem eq_zero_of_step {r : Residue} (h : step r 0 = 0#30) : r = 0#30 := by
  have hshift : r <<< 5 = feedback r := by
    have hzero : BitVec.ofNat 30 (0 : Digit).val = 0#30 := rfl
    rw [step, hzero, BitVec.xor_zero] at h
    exact BitVec.xor_eq_zero_iff.1 h
  -- nothing is moved up to the lowest places, so nothing is fed back
  have hlow : ∀ j : Fin 5, (feedback r).getLsbD j.val = false := by
    intro j
    rw [← hshift, BitVec.getLsbD_shiftLeft]
    simp [j.isLt]
  rw [feedback_eq] at hlow
  obtain ⟨ha, hb, hc, hd, he⟩ := selected_independent _ _ _ _ _ hlow
  rw [feedback_eq, ha, hb, hc, hd, he] at hshift
  have hnone : r <<< 5 = 0#30 := hshift
  apply BitVec.eq_of_getLsbD_eq
  intro j hj
  rw [BitVec.getLsbD_zero]
  by_cases htop : j < 25
  · have hbit : (r <<< 5).getLsbD (j + 5) = false := by rw [hnone, BitVec.getLsbD_zero]
    have hplace : j + 5 < 30 := by omega
    have habove : ¬ j + 5 < 5 := by omega
    simpa only [BitVec.getLsbD_shiftLeft, hplace, habove, decide_true, decide_false, Bool.not_false, Bool.true_and,
      Nat.add_sub_cancel] using hbit
  · obtain rfl | rfl | rfl | rfl | rfl : j = 25 ∨ j = 26 ∨ j = 27 ∨ j = 28 ∨ j = 29 := by omega
    all_goals assumption

theorem step_inj {r s : Residue} {d : Digit} (h : step r d = step s d) : r = s := by
  have hsum : step (r ^^^ s) 0 = 0#30 := by
    have hsame : step r 0 = step s 0 := by
      have hr := step_xor r 0#30 d
      have hs := step_xor s 0#30 d
      rw [BitVec.xor_zero] at hr hs
      rw [hr, hs] at h
      exact (BitVec.xor_left_inj _).1 h
    rw [step_xor, hsame, BitVec.xor_self]
  exact BitVec.xor_eq_zero_iff.1 (eq_zero_of_step hsum)

theorem foldl_step_inj {r s : Residue} {ds : List Digit} (h : ds.foldl step r = ds.foldl step s) : r = s := by
  induction ds generalizing r s with
  | nil => exact h
  | cons d ds ih => exact step_inj (ih h)

/-- **Under another human-readable part** a text with its checksum passes if and only if both parts lead to the same
    residue. This does not depend on the text. -/
theorem verifies_checksum_iff (hrp hrp' : List UInt8) (data : List Digit) :
    verifies hrp' (data ++ checksum hrp data) = true ↔ remainder (expand hrp') = remainder (expand hrp) := by
  have hself : remainder (expand hrp ++ (data ++ checksum hrp data)) = 1 := by
    simpa [verifies] using verifies_checksum hrp data
  have hgo (start : List Digit) : remainder (start ++ (data ++ checksum hrp data)) =
      (data ++ checksum hrp data).foldl step (remainder start) := List.foldl_append
  unfold verifies
  rw [decide_eq_true_iff, ← hself, hgo, hgo]
  constructor
  · exact foldl_step_inj
  · intro h
    rw [h]

end RemoteStaking.Bech32
