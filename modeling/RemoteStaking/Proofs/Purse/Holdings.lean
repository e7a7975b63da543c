import RemoteStaking.Purse

/-!
# `RemoteStaking.Proofs.Purse.Holdings` — what a purse holds, seen through `amountOf`

Every operation on a purse is described by what it does to the amount of each denomination, and by nothing else. The
order of the coins and the absence of zeros stay behind `Purse.set`.

## Contents
- **Ordered lists.** `amountIn_place`, `amountIn_without`, and `total_eq_amountIn`: a list without repetition holds of a
  denomination what its coins add up to.
- **Purses.** One law for each operation: `amountOf_set`, `amountOf_add`, `amountOf_deduct`, `amountOf_ofCoins`.
-/

namespace RemoteStaking

theorem Coin.total_eq_zero {denom : String} {cs : List Coin} (h : ∀ c ∈ cs, c.denom ≠ denom) :
    Coin.total denom cs = 0 := by
  induction cs with
  | nil => rfl
  | cons c cs ih =>
    unfold Coin.total
    rw [if_neg (h c List.mem_cons_self), ih fun d hd => h d (List.mem_cons_of_mem c hd)]

namespace Purse

/-! ## Ordered lists of coins -/

theorem amountIn_place (c : Coin) (denom : String) (ds : List Coin) :
    amountIn denom (place c ds) = if c.denom = denom then c.amount else amountIn denom ds := by
  induction ds with
  | nil => rfl
  | cons d ds ih =>
    unfold place
    split
    · rfl
    · split
      · rename_i heq
        by_cases hd : c.denom = denom
        · rw [if_pos hd, amountIn, if_pos hd]
        · rw [if_neg hd, amountIn, if_neg hd, amountIn, if_neg (heq ▸ hd)]
      · rename_i hne
        rw [amountIn, ih, amountIn]
        by_cases hd : c.denom = denom
        · rw [if_pos hd, if_pos hd, if_neg fun h => hne (hd.trans h.symm)]
        · rw [if_neg hd, if_neg hd]

theorem amountIn_without (gone denom : String) (ds : List Coin) :
    amountIn denom (without gone ds) = if gone = denom then .zero else amountIn denom ds := by
  induction ds with
  | nil => exact (ite_self Amount.zero).symm
  | cons d ds ih =>
    unfold without at ih ⊢
    by_cases hd : d.denom = gone
    · rw [List.filter_cons_of_neg (by simpa using hd), ih, amountIn]
      by_cases h : gone = denom
      · rw [if_pos h, if_pos h]
      · rw [if_neg h, if_neg h, if_neg (hd ▸ h)]
    · rw [List.filter_cons_of_pos (by simpa using hd), amountIn, ih, amountIn]
      by_cases h : gone = denom
      · rw [if_pos h, if_neg (h ▸ hd), if_pos h]
      · rw [if_neg h, if_neg h]

/-- In ascending order a denomination has one coin at most, so the sum is that coin. -/
theorem total_eq_amountIn (denom : String) {ds : List Coin} (h : ds.Pairwise fun c d => c.denom < d.denom) :
    Coin.total denom ds = (amountIn denom ds).toNat := by
  induction ds with
  | nil => rfl
  | cons d ds ih =>
    obtain ⟨hd, hds⟩ := List.pairwise_cons.1 h
    unfold Coin.total amountIn
    by_cases heq : d.denom = denom
    · rw [if_pos heq, if_pos heq, Coin.total_eq_zero, Nat.add_zero]
      -- a second coin of the denomination would have to come strictly after itself
      intro c hc hcd
      have hlt : d.denom < c.denom := hd c hc
      rw [heq, hcd] at hlt
      exact String.lt_irrefl denom hlt
    · rw [if_neg heq, if_neg heq, Nat.zero_add, ih hds]

/-! ## Purses -/

variable {p q : Purse} {c : Coin} {cs : List Coin}

theorem total_coins (p : Purse) (denom : String) : Coin.total denom p.coins = (p.amountOf denom).toNat :=
  total_eq_amountIn denom p.ascending

@[simp] theorem amountOf_empty (denom : String) : empty.amountOf denom = .zero := rfl

/-- A purse that holds nothing holds nothing of any denomination. -/
theorem amountOf_of_isEmpty (h : p.isEmpty = true) (denom : String) : p.amountOf denom = .zero := by
  unfold amountOf
  rw [List.isEmpty_iff.1 h]
  rfl

/-- Setting the amount of a denomination changes that amount and no other. -/
theorem amountOf_set (p : Purse) (c : Coin) (denom : String) :
    (p.set c).amountOf denom = if c.denom = denom then c.amount else p.amountOf denom := by
  unfold set
  split
  · exact amountIn_place c denom p.coins
  · rename_i hpos
    have hzero : c.amount = .zero := Amount.ext (Nat.eq_zero_of_not_pos hpos)
    rw [hzero]
    exact amountIn_without c.denom denom p.coins

theorem amountOf_add (h : p.add c = .ok q) (denom : String) :
    (q.amountOf denom).toNat = (p.amountOf denom).toNat + if c.denom = denom then c.amount.toNat else 0 := by
  unfold add at h
  split at h
  · rename_i hzero
    cases h
    rw [hzero]
    show (p.amountOf denom).toNat = (p.amountOf denom).toNat + if c.denom = denom then 0 else 0
    rw [ite_self, Nat.add_zero]
  · split at h
    · cases h
    · rename_i sum hsum
      cases h
      rw [amountOf_set]
      by_cases hd : c.denom = denom
      · subst hd
        rw [if_pos rfl, if_pos rfl]
        exact (Amount.add_eq_ok_iff.1 hsum).symm
      · rw [if_neg hd, if_neg hd, Nat.add_zero]

theorem amountOf_deduct (h : p.deduct c = .ok q) (denom : String) :
    (p.amountOf denom).toNat = (if c.denom = denom then c.amount.toNat else 0) + (q.amountOf denom).toNat := by
  unfold deduct at h
  split at h
  · cases h
  · rename_i rest hrest
    cases h
    rw [amountOf_set]
    by_cases hd : c.denom = denom
    · subst hd
      rw [if_pos rfl, if_pos rfl]
      exact Amount.sub_eq_ok_iff.1 hrest
    · rw [if_neg hd, if_neg hd, Nat.zero_add]

theorem amountOf_addAll (h : p.addAll cs = .ok q) (denom : String) :
    (q.amountOf denom).toNat = (p.amountOf denom).toNat + Coin.total denom cs := by
  induction cs generalizing p with
  | nil =>
    cases h
    rfl
  | cons c cs ih =>
    unfold addAll at h
    split at h
    · cases h
    · rename_i hadd
      rw [ih h, amountOf_add hadd]
      exact Nat.add_assoc ..

/-- **All the coins together.** A purse made of coins holds of each denomination exactly what they add up to. -/
theorem amountOf_ofCoins (h : ofCoins cs = .ok p) (denom : String) :
    (p.amountOf denom).toNat = Coin.total denom cs := by
  rw [amountOf_addAll h, amountOf_empty]
  exact Nat.zero_add _

end Purse

end RemoteStaking
