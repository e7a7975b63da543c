/-!
# `RemoteStaking.Amount` — quantities of a token

A quantity is a whole number below 2^128. Sums and differences that leave that range are refused, never wrapped.

## Contents
- **`Amount`**, `Amount.bound`, `Amount.ofNat?`, `Amount.max`: the range.
- **`Amount.add`**, **`Amount.sub`**: the checked operations, with `AmountError` for a result out of range.
-/

namespace RemoteStaking

/-- The least number that is too large, 2^128. -/
def Amount.bound : Nat := Nat.pow 2 128

/-- A quantity of some token, in its smallest unit. -/
@[ext] structure Amount where
  toNat : Nat
  toNat_lt : toNat < Amount.bound
deriving DecidableEq

/-- An operation with no result in range, with its two operands. -/
inductive AmountError where
  | sum (a b : Amount)
  | difference (a b : Amount)
deriving DecidableEq

namespace Amount

/-- The amount equal to a number, if there is one. -/
def ofNat? (n : Nat) : Option Amount :=
  if h : n < bound then some ⟨n, h⟩ else none

/-- Nothing. -/
def zero : Amount := ⟨0, by decide⟩

/-- The largest amount. As a spend limit it means that there is no limit. -/
def max : Amount := ⟨bound - 1, by decide⟩

instance : ToString Amount := ⟨fun a => toString a.toNat⟩

/-- The sum, unless it is out of range. -/
def add (a b : Amount) : Except AmountError Amount :=
  if h : a.toNat + b.toNat < bound then .ok ⟨a.toNat + b.toNat, h⟩ else .error (.sum a b)

/-- What is left of `a` without `b`, unless that is less than nothing. -/
def sub (a b : Amount) : Except AmountError Amount :=
  if b.toNat ≤ a.toNat then .ok ⟨a.toNat - b.toNat, Nat.lt_of_le_of_lt (Nat.sub_le ..) a.toNat_lt⟩
  else .error (.difference a b)

theorem add_eq_ok_iff {a b c : Amount} : a.add b = .ok c ↔ a.toNat + b.toNat = c.toNat := by
  unfold add
  split
  · rw [Except.ok.injEq, Amount.ext_iff]
  · have := c.toNat_lt
    simp only [reduceCtorEq, false_iff]
    omega

theorem sub_eq_ok_iff {a b c : Amount} : a.sub b = .ok c ↔ a.toNat = b.toNat + c.toNat := by
  unfold sub
  split
  · rw [Except.ok.injEq, Amount.ext_iff]
    change a.toNat - b.toNat = c.toNat ↔ _
    omega
  · simp only [reduceCtorEq, false_iff]
    omega

end Amount

/-- The error as a text. -/
def AmountError.message : AmountError → String
  | .sum a b => s!"Cannot Add with {a} and {b}"
  | .difference a b => s!"Cannot Sub with {a} and {b}"

end RemoteStaking
