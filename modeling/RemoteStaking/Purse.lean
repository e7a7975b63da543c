import RemoteStaking.Coin

/-!
# `RemoteStaking.Purse` — coins of several tokens

A purse holds at most one coin of each denomination, none of them zero, in the order of their denominations (by code
point, which is also the order of their UTF-8 bytes). So two purses with the same holdings are equal.

## Contents
- **`Purse`**, `Purse.empty`, `Purse.amountOf`, `Purse.isEmpty`.
- **`Purse.set`**: put in place of what is held of a denomination; the other operations go through it.
- **`Purse.add`**, **`Purse.deduct`**, **`Purse.ofCoins`**: checked changes.
-/

namespace RemoteStaking

/-- Coins in strictly ascending order of their denominations, none of them zero. -/
@[ext] structure Purse where
  coins : List Coin
  ascending : coins.Pairwise fun c d => c.denom < d.denom
  positive : ∀ c ∈ coins, 0 < c.amount.toNat
deriving DecidableEq

namespace Purse

/-! ## Ordered lists of coins -/

/-- Put a coin at its place, instead of one of the same denomination. -/
def place (c : Coin) : List Coin → List Coin
  | [] => [c]
  | d :: ds =>
    if c.denom < d.denom then c :: d :: ds
    else if c.denom = d.denom then c :: ds
    else d :: place c ds

/-- Take out the coin of a denomination. -/
def without (denom : String) (ds : List Coin) : List Coin :=
  ds.filter fun d => d.denom ≠ denom

/-- The amount of the first coin of a denomination, zero if there is none. -/
def amountIn (denom : String) : List Coin → Amount
  | [] => .zero
  | d :: ds => if d.denom = denom then d.amount else amountIn denom ds

theorem eq_or_mem_of_mem_place {c x : Coin} {ds : List Coin} (h : x ∈ place c ds) : x = c ∨ x ∈ ds := by
  induction ds with
  | nil => exact .inl (List.mem_singleton.1 h)
  | cons d ds ih =>
    unfold place at h
    split at h
    · exact List.mem_cons.1 h
    · split at h
      · exact (List.mem_cons.1 h).imp_right (List.mem_cons_of_mem d)
      · rcases List.mem_cons.1 h with rfl | h
        · exact .inr List.mem_cons_self
        · exact (ih h).imp_right (List.mem_cons_of_mem d)

theorem lt_of_not_lt_of_ne {s t : String} (h : ¬ s < t) (hne : s ≠ t) : t < s :=
  Decidable.byContradiction fun h' => hne (String.le_antisymm h' h)

theorem pairwise_place {c : Coin} {ds : List Coin} (h : ds.Pairwise fun c d => c.denom < d.denom) :
    (place c ds).Pairwise fun c d => c.denom < d.denom := by
  induction ds with
  | nil => exact List.pairwise_singleton ..
  | cons d ds ih =>
    have hd := List.pairwise_cons.1 h
    unfold place
    split
    · rename_i hlt
      refine List.pairwise_cons.2 ⟨fun x hx => ?_, h⟩
      rcases List.mem_cons.1 hx with rfl | hx
      · exact hlt
      · exact String.lt_trans hlt (hd.1 x hx)
    · split
      · rename_i heq
        exact List.pairwise_cons.2 ⟨fun x hx => heq ▸ hd.1 x hx, hd.2⟩
      · rename_i hlt hne
        refine List.pairwise_cons.2 ⟨fun x hx => ?_, ih hd.2⟩
        rcases eq_or_mem_of_mem_place hx with rfl | hx
        · exact lt_of_not_lt_of_ne hlt hne
        · exact hd.1 x hx

/-! ## Purses -/

/-- No coins. -/
def empty : Purse :=
  ⟨[], .nil, by simp⟩

/-- How much of a denomination is held. -/
def amountOf (p : Purse) (denom : String) : Amount :=
  amountIn denom p.coins

/-- Whether nothing is held. -/
def isEmpty (p : Purse) : Bool :=
  p.coins.isEmpty

/-- Hold exactly the coin's amount of its denomination. -/
def set (p : Purse) (c : Coin) : Purse :=
  if h : 0 < c.amount.toNat then
    { coins := place c p.coins
      ascending := pairwise_place p.ascending
      positive := fun _ hx => (eq_or_mem_of_mem_place hx).elim (· ▸ h) (p.positive _) }
  else
    { coins := without c.denom p.coins
      ascending := p.ascending.filter _
      positive := fun x hx => p.positive x (List.mem_filter.1 hx).1 }

/-- Add a coin. -/
def add (p : Purse) (c : Coin) : Except AmountError Purse :=
  if c.amount = .zero then .ok p
  else
    match (p.amountOf c.denom).add c.amount with
    | .error e => .error e
    | .ok sum => .ok (p.set ⟨c.denom, sum⟩)

/-- Take a coin out. More than is held cannot be taken, and what is not held counts as zero. -/
def deduct (p : Purse) (c : Coin) : Except AmountError Purse :=
  match (p.amountOf c.denom).sub c.amount with
  | .error e => .error e
  | .ok rest => .ok (p.set ⟨c.denom, rest⟩)

/-- Add the coins one after the other. -/
def addAll (p : Purse) : List Coin → Except AmountError Purse
  | [] => .ok p
  | c :: cs =>
    match p.add c with
    | .error e => .error e
    | .ok q => q.addAll cs

/-- All the coins together. -/
def ofCoins (cs : List Coin) : Except AmountError Purse :=
  empty.addAll cs

/-- The coins separated by commas, or `[]`. -/
def toText (p : Purse) : String :=
  if p.isEmpty then "[]" else ",".intercalate (p.coins.map toString)

end Purse

end RemoteStaking
