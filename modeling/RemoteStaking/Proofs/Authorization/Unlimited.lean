import RemoteStaking.Proofs.Authorization.Paying

/-!
# `RemoteStaking.Proofs.Authorization.Unlimited` — limits that stand for none

The largest amount stands for "no limit". Whether a limit has no bound in a denomination is asked of what its coins add
up to, not of the coins one by one. The two questions have the same answer where the coins of a limit are merged, one
for each denomination at most; where they are not, small coins may add up to the largest amount, and a coin of the
largest amount may be in a limit that does not add up.

## Contents
- **`Allocation.Unbounded`**: the limit has a coin of the largest amount. **`Allocation.Merged`**: no two coins of one
  denomination.
- **Totals.** A coin is at most what its denomination adds up to, and in a merged limit it is all of it.
- **`Authorization.accept_eq_unlimited_iff`**: when a leave stays as it is, in both terms.
- **`Authorization.merged_of_pay`**: what is left of a merged leave is merged.
-/

namespace RemoteStaking

namespace Allocation

/-- The limit has a coin of the largest amount in the denomination. -/
def Unbounded (a : Allocation) (denom : String) : Prop :=
  ∃ c ∈ a.spendLimit, c.denom = denom ∧ c.amount = .max

/-- Of two coins of one denomination, one at least is zero. -/
def Merged (a : Allocation) : Prop :=
  a.spendLimit.Pairwise fun c d => c.denom = d.denom → c.amount = .zero ∨ d.amount = .zero

end Allocation

/-! ## Totals -/

/-- A coin is at most what its denomination adds up to. -/
theorem Coin.le_total_of_mem {c : Coin} {cs : List Coin} (hc : c ∈ cs) : c.amount.toNat ≤ Coin.total c.denom cs := by
  induction cs with
  | nil => exact absurd hc List.not_mem_nil
  | cons d ds ih =>
    unfold Coin.total
    rcases List.mem_cons.1 hc with rfl | hc
    · rw [if_pos rfl]
      exact Nat.le_add_right ..
    · exact Nat.le_trans (ih hc) (Nat.le_add_left ..)

/-- What does not add up to nothing is one of the coins, if they are merged. -/
theorem Coin.exists_of_total_ne_zero {denom : String} {cs : List Coin}
    (hmerged : cs.Pairwise fun c d => c.denom = d.denom → c.amount = .zero ∨ d.amount = .zero)
    (h : Coin.total denom cs ≠ 0) : ∃ c ∈ cs, c.denom = denom ∧ Coin.total denom cs = c.amount.toNat := by
  induction cs with
  | nil => exact absurd rfl h
  | cons c cs ih =>
    obtain ⟨hc, hcs⟩ := List.pairwise_cons.1 hmerged
    by_cases hrest : Coin.total denom cs = 0
    -- all of it is the first coin
    · refine ⟨c, List.mem_cons_self, ?_⟩
      unfold Coin.total at h ⊢
      by_cases hdenom : c.denom = denom
      · rw [if_pos hdenom, hrest]
        exact ⟨hdenom, Nat.add_zero _⟩
      · rw [if_neg hdenom, hrest] at h
        exact absurd rfl h
    -- all of it is a later coin, next to which the first one is zero or of another denomination
    · obtain ⟨d, hd, rfl, htotal⟩ := ih hcs hrest
      refine ⟨d, List.mem_cons_of_mem c hd, rfl, ?_⟩
      unfold Coin.total
      by_cases hdenom : c.denom = d.denom
      · rcases hc d hd hdenom with hzero | hzero
        · rw [if_pos hdenom, htotal, hzero]
          exact Nat.zero_add _
        · rw [htotal, hzero] at hrest
          exact absurd rfl hrest
      · rw [if_neg hdenom, htotal]
        exact Nat.zero_add _

namespace Allocation

variable {a : Allocation} {t : Transfer}

/-- The coins of a merged limit add up. -/
theorem Merged.addsUp (h : a.Merged) : a.AddsUp := by
  intro denom
  by_cases hzero : Coin.total denom a.spendLimit = 0
  · rw [hzero]
    exact Nat.zero_le _
  · obtain ⟨c, -, -, htotal⟩ := Coin.exists_of_total_ne_zero h hzero
    rw [htotal]
    exact Nat.le_pred_of_lt c.amount.toNat_lt

/-- If the limit adds up, a coin of the largest amount is all there is of its denomination. -/
theorem Unbounded.total_eq {denom : String} (h : a.Unbounded denom) (hadds : a.AddsUp) :
    Coin.total denom a.spendLimit = Amount.max.toNat := by
  obtain ⟨c, hc, rfl, hmax⟩ := h
  have hle : c.amount.toNat ≤ Coin.total c.denom a.spendLimit := Coin.le_total_of_mem hc
  rw [hmax] at hle
  exact Nat.le_antisymm (hadds c.denom) hle

/-- In a merged limit only a coin of the largest amount makes the largest total. -/
theorem Merged.unbounded {denom : String} (h : a.Merged)
    (hmax : Coin.total denom a.spendLimit = Amount.max.toNat) : a.Unbounded denom := by
  have hne : Coin.total denom a.spendLimit ≠ 0 := by
    rw [hmax]
    decide
  obtain ⟨c, hc, hdenom, htotal⟩ := Coin.exists_of_total_ne_zero h hne
  exact ⟨c, hc, hdenom, Amount.ext (htotal.symm.trans hmax)⟩

/-- Nothing is taken out of a limit if it adds up to the largest amount, and only then. -/
theorem spend_eq_none_iff_total (hallowed : a.allowList = [] ∨ t.receiver ∈ a.allowList) :
    a.spend t = .ok none ↔ a.AddsUp ∧ Coin.total t.token.denom a.spendLimit = Amount.max.toNat := by
  rw [spend_eq_none_iff_amountOf, addsUp_iff]
  constructor
  · rintro ⟨-, limit, hlimit, hmax⟩
    refine ⟨⟨limit, hlimit⟩, ?_⟩
    rw [← Purse.amountOf_ofCoins hlimit, hmax]
  · rintro ⟨⟨limit, hlimit⟩, hmax⟩
    refine ⟨(a.allows_iff t.receiver).2 hallowed, limit, hlimit, Amount.ext ?_⟩
    rw [Purse.amountOf_ofCoins hlimit, hmax]

end Allocation

/-! ## Leaves that stay merged -/

/-- A limit is written down without two coins of one denomination. -/
theorem Allocation.merged_withLimit (a : Allocation) (limit : Purse) : (a.withLimit limit).Merged := by
  refine limit.ascending.imp ?_
  intro c d hlt heq
  rw [heq] at hlt
  exact absurd hlt (String.lt_irrefl _)

theorem Allocation.Merged.of_mem_kept {a b : Allocation} {r : Option Purse} (h : a.Merged) (hb : b ∈ a.kept r) :
    b.Merged := by
  cases r with
  | none => rwa [List.mem_singleton.1 hb]
  | some left =>
    rw [eq_withLimit_of_mem_keep hb]
    exact a.merged_withLimit left

/-- **What is left of a merged leave is merged.** -/
theorem Authorization.merged_of_pay {auth rest : Authorization} {t : Transfer}
    (hmerged : ∀ a ∈ auth.allocations, a.Merged) (h : pay (some auth) t = some (some rest)) :
    ∀ a ∈ rest.allocations, a.Merged := by
  obtain ⟨before, a, after, r, hgoverns, -, hrest⟩ := pay_eq_some_iff.1 h
  rw [hgoverns.split] at hmerged
  rw [allocations_of_ofRest hrest.symm]
  intro b hb
  rcases List.mem_append.1 hb with hb | hb
  · rcases List.mem_append.1 hb with hb | hb
    · exact hmerged b (List.mem_append_left _ hb)
    · exact (hmerged a (List.mem_append_right before List.mem_cons_self)).of_mem_kept hb
  · exact hmerged b (List.mem_append_right before (List.mem_cons_of_mem a hb))

/-! ## Leaves that stay as they are -/

namespace Authorization

variable {auth : Authorization} {t : Transfer} {before after : List Allocation} {a : Allocation}

/-- A leave stays as it is if nothing is taken out of the allocation that is asked. -/
theorem accept_eq_unlimited_iff_spend (h : auth.Governs t before a after) :
    auth.accept t = .ok .unlimited ↔ a.spend t = .ok none := by
  rw [accept_of_governs h]
  cases a.spend t with
  | error e => simp
  | ok r =>
    cases r with
    | none => simp
    | some left =>
      have hne : Verdict.ofRest (before ++ a.keep left ++ after) ≠ .unlimited := by
        cases before ++ a.keep left ++ after <;> exact Verdict.noConfusion
      simp only [Except.ok.injEq, hne, reduceCtorEq]

/-- **When a leave stays as it is.** The coins of the limit have to add up, in every denomination, and in that of the
    transfer to the largest amount. If there is a coin of the largest amount it is enough that they add up; otherwise
    smaller ones have to make it together. Where coins are merged, neither can go wrong, and it is the coin of the
    largest amount that counts. -/
theorem accept_eq_unlimited_iff (h : auth.Permits t before a after) :
    (auth.accept t = .ok .unlimited ↔
      a.AddsUp ∧ Coin.total t.token.denom a.spendLimit = Amount.max.toNat) ∧
    (a.Unbounded t.token.denom → (auth.accept t = .ok .unlimited ↔ a.AddsUp)) ∧
    (a.Merged → (auth.accept t = .ok .unlimited ↔ a.Unbounded t.token.denom)) := by
  have htotal : auth.accept t = .ok .unlimited ↔
      a.AddsUp ∧ Coin.total t.token.denom a.spendLimit = Amount.max.toNat :=
    (accept_eq_unlimited_iff_spend h.toGoverns).trans (Allocation.spend_eq_none_iff_total h.allowed)
  refine ⟨htotal, ?_, ?_⟩
  · intro hunbounded
    rw [htotal]
    exact ⟨fun hboth => hboth.1, fun hadds => ⟨hadds, hunbounded.total_eq hadds⟩⟩
  · intro hmerged
    rw [htotal]
    constructor
    · rintro ⟨-, hmax⟩
      exact hmerged.unbounded hmax
    · intro hunbounded
      exact ⟨hmerged.addsUp, hunbounded.total_eq hmerged.addsUp⟩

/-- An allocation of a limit for everybody. -/
def sampleAllocation (limit : List Coin) : Allocation :=
  ⟨⟨"transfer", "channel-0"⟩, limit, []⟩

/-- Eleven coins over its route. -/
def elevenOsmo : Transfer :=
  .along ⟨"transfer", "channel-0"⟩ ⟨"uosmo", ⟨11, by decide⟩⟩ "osmo1sender" "stride1receiver" ""

theorem permits_sampleAllocation (limit : List Coin) :
    Permits ⟨[sampleAllocation limit]⟩ elevenOsmo [] (sampleAllocation limit) [] where
  split := rfl
  route_eq := rfl
  first := fun _ hb => absurd hb List.not_mem_nil
  allowed := .inl rfl

/-- A coin of the largest amount, and one of another denomination. -/
def mergedLimit : List Coin :=
  [⟨"uatom", ⟨12, by decide⟩⟩, ⟨"uosmo", .max⟩]

theorem mergedLimit_unlimited :
    Permits ⟨[sampleAllocation mergedLimit]⟩ elevenOsmo [] (sampleAllocation mergedLimit) [] ∧
    accept ⟨[sampleAllocation mergedLimit]⟩ elevenOsmo = .ok .unlimited := by
  obtain ⟨-, -, hmerged⟩ := accept_eq_unlimited_iff (permits_sampleAllocation mergedLimit)
  refine ⟨permits_sampleAllocation mergedLimit, (hmerged ?_).2 ?_⟩
  · exact List.pairwise_pair.2 fun h => absurd h (by decide)
  · exact ⟨⟨"uosmo", .max⟩, by decide, rfl, rfl⟩

/-- Two coins of one denomination that add up to the largest amount. -/
def splitLimit : List Coin :=
  [⟨"uosmo", ⟨Amount.bound - 2, by decide⟩⟩, ⟨"uosmo", ⟨1, by decide⟩⟩]

/-- A coin of the largest amount, and two of another denomination that do not add up to an amount. -/
def overflowingLimit : List Coin :=
  [⟨"uosmo", .max⟩, ⟨"uatom", .max⟩, ⟨"uatom", ⟨1, by decide⟩⟩]

/-- **Coins that are not merged mislead.** From the first limit nothing is taken, though it has no coin of the largest
    amount. The second one has it, once for its denomination, and not even eleven coins can be sent. -/
theorem unmerged_limits_mislead :
    (Permits ⟨[sampleAllocation splitLimit]⟩ elevenOsmo [] (sampleAllocation splitLimit) [] ∧
      accept ⟨[sampleAllocation splitLimit]⟩ elevenOsmo = .ok .unlimited ∧
      ¬ (sampleAllocation splitLimit).Unbounded elevenOsmo.token.denom) ∧
    (Permits ⟨[sampleAllocation overflowingLimit]⟩ elevenOsmo [] (sampleAllocation overflowingLimit) [] ∧
      accept ⟨[sampleAllocation overflowingLimit]⟩ elevenOsmo = .error (.overLimit elevenOsmo.token .empty) ∧
      (sampleAllocation overflowingLimit).Unbounded elevenOsmo.token.denom) := by
  refine ⟨⟨permits_sampleAllocation _, rfl, ?_⟩, permits_sampleAllocation _, rfl, ?_⟩
  · unfold Allocation.Unbounded
    decide
  · exact ⟨⟨"uosmo", .max⟩, by decide, rfl, rfl⟩

end Authorization

end RemoteStaking
