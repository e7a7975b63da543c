import RemoteStaking.Proofs.Purse.Holdings

/-!
# `RemoteStaking.Proofs.Purse.Listing` — the one list of coins for given amounts

Amounts, one for each denomination, say all about the coins of a purse: which they are and in which order they stand. So
a purse is known once `amountOf` is, and whether an operation succeeds depends on amounts alone.

## Contents
- **`Lists`**: a list of coins has the positive ones among given amounts, in strictly ascending order of their
  denominations. `Lists.unique`: there is one such list at most. `Purse.lists`, `Purse.lists_of_amounts`: a purse has it.
- **`Purse.eq_of_amountOf`**: purses with the same holdings are equal.
- **When operations succeed.** `exists_ofCoins_iff`, `ofCoins_eq_ok_iff`, `ofCoins_coins`, `deduct_of_le`,
  `deduct_eq_ok_iff`, `deduct_comm`, `deduct_parts_iff`, `deduct_of_lt`.
-/

namespace RemoteStaking

/-- The coins are the positive ones among the amounts, in strictly ascending order of their denominations. -/
structure Lists (cs : List Coin) (amounts : String → Nat) : Prop where
  ascending : cs.Pairwise fun c d => c.denom < d.denom
  mem_iff : ∀ c, c ∈ cs ↔ 0 < c.amount.toNat ∧ c.amount.toNat = amounts c.denom

namespace Lists

variable {cs ds : List Coin} {amounts : String → Nat}

/-- No coin stands in the list twice, since it would have to stand before itself. -/
theorem nodup (h : Lists cs amounts) : cs.Nodup := by
  refine h.ascending.imp ?_
  rintro c d hlt rfl
  exact String.lt_irrefl _ hlt

/-- **The amounts say which coins are listed, and in which order.** -/
theorem unique (hc : Lists cs amounts) (hd : Lists ds amounts) : cs = ds := by
  have hmem : ∀ c, c ∈ cs ↔ c ∈ ds := fun c => (hc.mem_iff c).trans (hd.mem_iff c).symm
  have hperm : cs.Perm ds := (List.perm_ext_iff_of_nodup hc.nodup hd.nodup).2 hmem
  refine hperm.eq_of_pairwise ?_ hc.ascending hd.ascending
  intro c d _ _ hcd hdc
  exact absurd (String.lt_trans hcd hdc) (String.lt_irrefl _)

/-- Nothing is listed if no amount is positive, and only then. -/
theorem eq_nil_iff (h : Lists cs amounts) (hbound : ∀ denom, amounts denom < Amount.bound) :
    cs = [] ↔ ∀ denom, amounts denom = 0 := by
  constructor
  · intro hnil denom
    apply Decidable.byContradiction
    intro hne
    have hmem : (⟨denom, ⟨amounts denom, hbound denom⟩⟩ : Coin) ∈ cs :=
      (h.mem_iff _).2 ⟨Nat.pos_of_ne_zero hne, rfl⟩
    rw [hnil] at hmem
    exact absurd hmem List.not_mem_nil
  · intro hzero
    refine List.eq_nil_iff_forall_not_mem.2 fun c hc => ?_
    obtain ⟨hpos, heq⟩ := (h.mem_iff c).1 hc
    rw [heq, hzero] at hpos
    exact absurd hpos (Nat.lt_irrefl 0)

end Lists

namespace Purse

variable {p q : Purse} {c : Coin} {cs : List Coin}

/-! ## The coins of a purse -/

/-- A coin in ascending order is the first of its denomination. -/
theorem amountIn_of_mem {ds : List Coin} (h : ds.Pairwise fun c d => c.denom < d.denom) (hc : c ∈ ds) :
    amountIn c.denom ds = c.amount := by
  induction ds with
  | nil => exact absurd hc List.not_mem_nil
  | cons d ds ih =>
    obtain ⟨hd, hds⟩ := List.pairwise_cons.1 h
    unfold amountIn
    rcases List.mem_cons.1 hc with rfl | hc
    · rw [if_pos rfl]
    · have hne : d.denom ≠ c.denom := by
        intro heq
        have hlt : d.denom < c.denom := hd c hc
        rw [heq] at hlt
        exact String.lt_irrefl _ hlt
      rw [if_neg hne, ih hds hc]

/-- What there is some of, there is a coin of. -/
theorem mem_of_amountIn {denom : String} {ds : List Coin} (h : 0 < (amountIn denom ds).toNat) :
    ⟨denom, amountIn denom ds⟩ ∈ ds := by
  induction ds with
  | nil => exact absurd h (Nat.lt_irrefl 0)
  | cons d ds ih =>
    unfold amountIn at h ⊢
    by_cases hd : d.denom = denom
    · simp only [hd, if_true]
      rw [← hd]
      exact List.mem_cons_self
    · rw [if_neg hd] at h ⊢
      exact List.mem_cons_of_mem d (ih h)

/-- **A purse lists what it holds.** -/
theorem lists (p : Purse) : Lists p.coins fun denom => (p.amountOf denom).toNat where
  ascending := p.ascending
  mem_iff c := by
    constructor
    · intro hc
      have hamount : p.amountOf c.denom = c.amount := amountIn_of_mem p.ascending hc
      exact ⟨p.positive c hc, by rw [hamount]⟩
    · rintro ⟨hpos, heq⟩
      have hamount : c.amount = p.amountOf c.denom := Amount.ext heq
      rw [heq] at hpos
      have hmem : ⟨c.denom, p.amountOf c.denom⟩ ∈ p.coins := mem_of_amountIn hpos
      rwa [← hamount] at hmem

/-- The amounts may be given in any other way. -/
theorem lists_of_amounts {amounts : String → Nat} (h : ∀ denom, (p.amountOf denom).toNat = amounts denom) :
    Lists p.coins amounts := by
  have hlists := p.lists
  rwa [funext h] at hlists

/-- **Purses with the same holdings are equal.** -/
theorem eq_of_amountOf (h : ∀ denom, (p.amountOf denom).toNat = (q.amountOf denom).toNat) : p = q := by
  have hp : Lists p.coins fun denom => (q.amountOf denom).toNat := lists_of_amounts h
  exact Purse.ext (hp.unique q.lists)

/-! ## When operations succeed -/

/-- A coin can be added if the sum is an amount. -/
theorem exists_add (h : (p.amountOf c.denom).toNat + c.amount.toNat < Amount.bound) : ∃ q, p.add c = .ok q := by
  unfold add
  by_cases hzero : c.amount = .zero
  · exact ⟨p, if_pos hzero⟩
  · rw [if_neg hzero]
    have hsum : (p.amountOf c.denom).add c.amount = .ok ⟨_, h⟩ := Amount.add_eq_ok_iff.2 rfl
    rw [hsum]
    exact ⟨_, rfl⟩

theorem exists_addAll (h : ∀ denom, (p.amountOf denom).toNat + Coin.total denom cs < Amount.bound) :
    ∃ q, p.addAll cs = .ok q := by
  induction cs generalizing p with
  | nil => exact ⟨p, rfl⟩
  | cons c cs ih =>
    have hc : (p.amountOf c.denom).toNat + c.amount.toNat < Amount.bound := by
      have hdenom := h c.denom
      rw [Coin.total, if_pos rfl] at hdenom
      omega
    obtain ⟨q, hq⟩ := exists_add hc
    obtain ⟨r, hr⟩ := ih (p := q) fun denom => by
      have hdenom := h denom
      have hamount := amountOf_add hq denom
      rw [Coin.total] at hdenom
      omega
    refine ⟨r, ?_⟩
    rw [addAll, hq]
    exact hr

/-- Coins can be put together if they add up to an amount in each denomination. -/
theorem exists_ofCoins (h : ∀ denom, Coin.total denom cs < Amount.bound) : ∃ p, ofCoins cs = .ok p := by
  apply exists_addAll
  intro denom
  rw [amountOf_empty]
  have hdenom := h denom
  show 0 + Coin.total denom cs < Amount.bound
  omega

/-- **Coins can be put together if and only if of no denomination there are more than there can be.** -/
theorem exists_ofCoins_iff : (∃ p, ofCoins cs = .ok p) ↔ ∀ denom, Coin.total denom cs ≤ Amount.max.toNat := by
  constructor
  · rintro ⟨p, hp⟩ denom
    rw [← amountOf_ofCoins hp denom]
    exact Nat.le_pred_of_lt (p.amountOf denom).toNat_lt
  · intro h
    have hpos : 0 < Amount.bound := by decide
    exact exists_ofCoins fun denom => Nat.lt_of_le_pred hpos (h denom)

/-- **All the coins together**: the purse that holds what they add up to, if there is one. -/
theorem ofCoins_eq_ok_iff : ofCoins cs = .ok p ↔ ∀ denom, (p.amountOf denom).toNat = Coin.total denom cs := by
  constructor
  · exact amountOf_ofCoins
  · intro h
    have hbound : ∀ denom, Coin.total denom cs < Amount.bound := fun denom => h denom ▸ (p.amountOf denom).toNat_lt
    obtain ⟨q, hq⟩ := exists_ofCoins hbound
    have hsame : q = p := eq_of_amountOf fun denom => (amountOf_ofCoins hq denom).trans (h denom).symm
    rw [hq, hsame]

/-- **The coins of a purse make the purse again.** -/
theorem ofCoins_coins (p : Purse) : ofCoins p.coins = .ok p :=
  ofCoins_eq_ok_iff.2 fun denom => (total_coins p denom).symm

/-- What is held can be taken out. -/
theorem deduct_of_le (h : c.amount.toNat ≤ (p.amountOf c.denom).toNat) : ∃ q, p.deduct c = .ok q := by
  unfold deduct Amount.sub
  rw [if_pos h]
  exact ⟨_, rfl⟩

/-- **A coin taken out**: the purse that holds the rest of everything, if there is one. -/
theorem deduct_eq_ok_iff : p.deduct c = .ok q ↔
    ∀ denom, (p.amountOf denom).toNat = (if c.denom = denom then c.amount.toNat else 0) + (q.amountOf denom).toNat := by
  constructor
  · exact amountOf_deduct
  · intro h
    have hheld : c.amount.toNat ≤ (p.amountOf c.denom).toNat := by
      have hdenom := h c.denom
      rw [if_pos rfl] at hdenom
      omega
    obtain ⟨r, hr⟩ := deduct_of_le hheld
    have hsame : r = q := eq_of_amountOf fun denom => by
      have hamount := amountOf_deduct hr denom
      have hdenom := h denom
      omega
    rw [hr, hsame]

/-- **Two coins can be taken out in either order**, and the same is left. -/
theorem deduct_comm {d : Coin} {r : Purse} (hq : p.deduct c = .ok q) (hr : q.deduct d = .ok r) :
    ∃ q', p.deduct d = .ok q' ∧ q'.deduct c = .ok r := by
  have hpq := amountOf_deduct hq
  have hqr := amountOf_deduct hr
  have hheld : d.amount.toNat ≤ (p.amountOf d.denom).toNat := by
    have hp := hpq d.denom
    have hq := hqr d.denom
    rw [if_pos rfl] at hq
    omega
  obtain ⟨q', hq'⟩ := deduct_of_le hheld
  refine ⟨q', hq', deduct_eq_ok_iff.2 fun denom => ?_⟩
  have hp := hpq denom
  have hq := hqr denom
  have hp' := amountOf_deduct hq' denom
  omega

/-- **A coin can be taken out in two parts**, and the same is left. -/
theorem deduct_parts_iff {denom : String} {x y : Amount} (h : x.toNat + y.toNat < Amount.bound) :
    (∃ r, p.deduct ⟨denom, x⟩ = .ok r ∧ r.deduct ⟨denom, y⟩ = .ok q) ↔
      p.deduct ⟨denom, ⟨x.toNat + y.toNat, h⟩⟩ = .ok q := by
  have hparts (d : String) : (if denom = d then x.toNat + y.toNat else 0) =
      (if denom = d then x.toNat else 0) + if denom = d then y.toNat else 0 := by
    split <;> rfl
  constructor
  · rintro ⟨r, hr, hq⟩
    refine deduct_eq_ok_iff.2 fun d => ?_
    have hpr : (p.amountOf d).toNat = (if denom = d then x.toNat else 0) + (r.amountOf d).toNat := amountOf_deduct hr d
    have hrq : (r.amountOf d).toNat = (if denom = d then y.toNat else 0) + (q.amountOf d).toNat := amountOf_deduct hq d
    show (p.amountOf d).toNat = (if denom = d then x.toNat + y.toNat else 0) + (q.amountOf d).toNat
    rw [hpr, hrq, hparts, Nat.add_assoc]
  · intro hq
    have hpq (d : String) : (p.amountOf d).toNat =
        (if denom = d then x.toNat else 0) + ((if denom = d then y.toNat else 0) + (q.amountOf d).toNat) := by
      rw [← Nat.add_assoc, ← hparts]
      exact amountOf_deduct hq d
    have hheld : x.toNat ≤ (p.amountOf denom).toNat := by
      rw [hpq, if_pos rfl]
      exact Nat.le_add_right ..
    obtain ⟨r, hr⟩ := deduct_of_le (c := ⟨denom, x⟩) hheld
    refine ⟨r, hr, deduct_eq_ok_iff.2 fun d => ?_⟩
    have hpr : (p.amountOf d).toNat = (if denom = d then x.toNat else 0) + (r.amountOf d).toNat := amountOf_deduct hr d
    rw [hpq] at hpr
    exact (Nat.add_left_cancel hpr).symm

/-- More than is held cannot be taken out. -/
theorem deduct_of_lt (h : (p.amountOf c.denom).toNat < c.amount.toNat) : ∃ e, p.deduct c = .error e := by
  unfold deduct Amount.sub
  rw [if_neg (Nat.not_le.2 h)]
  exact ⟨_, rfl⟩

end Purse

end RemoteStaking
