import Mathlib.Algebra.Group.Nat.Defs
import RemoteStaking.Proofs.Purse.Listing

/-!
# `RemoteStaking.Proofs.Purse.Gathering` — coins put together in any order

Coins are put together one after the other, and the first sum that is too large ends it. What the sums on the way are, and
which of them is the first that is too large, depends on the order of the coins. Whether there is such a sum does not: the
sums of a denomination only grow, so there is one if and only if the last of them is too large.

## Contents
- **Totals.** `Coin.total_perm`: they do not depend on the order.
- **`Purse.ofCoins_perm`**: the order of the coins does not matter.
-/

namespace RemoteStaking

/-! ## Totals -/

/-- In another order coins add up to the same. -/
theorem Coin.total_perm {cs ds : List Coin} (h : cs.Perm ds) (denom : String) :
    Coin.total denom cs = Coin.total denom ds := by
  induction h with
  | nil => rfl
  | cons c _ ih => simp only [Coin.total, ih]
  | swap c d cs => simp only [Coin.total, Nat.add_left_comm]
  | trans _ _ ih ih' => exact ih.trans ih'

namespace Purse

variable {cs ds : List Coin}

/-! ## Putting together -/

/-- **The order of the coins does not matter.** Coins can be put together in one order if and only if they can in another,
    which is if and only if of no denomination there are more than there can be. They make the same purse then, whose own
    coins make it again. -/
theorem ofCoins_perm (h : cs.Perm ds) :
    ((∃ p, ofCoins cs = .ok p) ↔ ∃ p, ofCoins ds = .ok p) ∧
    ((∃ p, ofCoins cs = .ok p) ↔ ∀ denom, Coin.total denom cs ≤ 2 ^ 128 - 1) ∧
    ∀ p, ofCoins cs = .ok p → ofCoins ds = .ok p ∧ ofCoins p.coins = .ok p := by
  have hmax : Amount.max.toNat = 2 ^ 128 - 1 := rfl
  rw [← hmax]
  refine ⟨?_, exists_ofCoins_iff, ?_⟩
  · rw [exists_ofCoins_iff, exists_ofCoins_iff]
    simp only [Coin.total_perm h]
  · intro p hp
    refine ⟨?_, ofCoins_coins p⟩
    rw [ofCoins_eq_ok_iff] at hp ⊢
    intro denom
    rw [hp denom, Coin.total_perm h]

/-- Coins of two denominations in turns, as many of one of them as there can be, and zeros between them. -/
def mixedCoins : List Coin :=
  [⟨"uosmo", ⟨33, by decide⟩⟩, ⟨"uatom", .max⟩, ⟨"uosmo", .zero⟩, ⟨"uatom", .zero⟩, ⟨"uosmo", ⟨54, by decide⟩⟩]

/-- The coins all together. -/
def mixedPurse : Purse where
  coins := [⟨"uatom", .max⟩, ⟨"uosmo", ⟨87, by decide⟩⟩]
  ascending := by decide
  positive := by decide

/-- As many again of the denomination of which there cannot be more. -/
def hugeCoins : List Coin :=
  ⟨"uatom", .max⟩ :: mixedCoins

/-- From the last coin to the first they make the same purse, and none at all where there are too many of them. -/
theorem mixedCoins_reversed :
    mixedCoins.Perm mixedCoins.reverse ∧ ofCoins mixedCoins = .ok mixedPurse ∧
      ofCoins mixedCoins.reverse = .ok mixedPurse ∧ ofCoins mixedPurse.coins = .ok mixedPurse ∧
      hugeCoins.Perm hugeCoins.reverse ∧ (¬ ∃ p, ofCoins hugeCoins = .ok p) ∧ ¬ ∃ p, ofCoins hugeCoins.reverse = .ok p := by
  have hmixed : mixedCoins.Perm mixedCoins.reverse := (List.reverse_perm _).symm
  have hhuge : hugeCoins.Perm hugeCoins.reverse := (List.reverse_perm _).symm
  have hpurse : ofCoins mixedCoins = .ok mixedPurse := rfl
  obtain ⟨hreversed, hagain⟩ := (ofCoins_perm hmixed).2.2 mixedPurse hpurse
  obtain ⟨hsame, hsmall, -⟩ := ofCoins_perm hhuge
  have hmany : ¬ ∃ p, ofCoins hugeCoins = .ok p := by
    rw [hsmall]
    intro h
    have hatom := h "uatom"
    revert hatom
    decide
  exact ⟨hmixed, hpurse, hreversed, hagain, hhuge, hmany, fun h => hmany (hsame.2 h)⟩

end Purse

end RemoteStaking
