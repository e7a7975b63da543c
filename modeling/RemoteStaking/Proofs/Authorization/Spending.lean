import RemoteStaking.Proofs.Authorization.Accept
import RemoteStaking.Proofs.Purse.Holdings

/-!
# `RemoteStaking.Proofs.Authorization.Spending` — a leave is spent exactly

Transfers are presented one after the other to a leave that is stored, and what a verdict leaves takes its place. Over
any such run, what was granted for a route in a denomination is what was spent on it and what is still granted.

## Contents
- **The run.** `Verdict.remaining`, `Authorization.spendAll`.
- **What is counted.** `Authorization.limit` over all allocations of a route, and `spent` over transfers.
- **`Bounded`**: the invariant; no allocation of the route stands for "no limit" in the denomination.
- **One step.** `limit_of_accept`, `bounded_of_accept`. **All steps.** `spendAll_conserves`, and from the leave as it was
  granted, `limit_eq_spent_add_left`.
-/

namespace RemoteStaking

/-! ## The run -/

/-- What a verdict leaves of the leave on which it was given, if anything. -/
def Verdict.remaining (auth : Authorization) : Verdict → Option Authorization
  | .unlimited => some auth
  | .exhausted => none
  | .reduced rest => some rest

/-- Present transfers one after the other to what is stored: the ones that are accepted, and what is stored after them.
    A refusal changes nothing, and once the leave is gone all is refused. -/
def Authorization.spendAll : Option Authorization → List Transfer → List Transfer × Option Authorization
  | stored, [] => ([], stored)
  | none, _ :: ts => spendAll none ts
  | some auth, t :: ts =>
    match auth.accept t with
    | .error _ => spendAll (some auth) ts
    | .ok v => (t :: (spendAll (v.remaining auth) ts).1, (spendAll (v.remaining auth) ts).2)

/-! ## What is counted -/

/-- What allocations grant for a route in a denomination, as a number without bound. -/
def limitIn (route : Route) (denom : String) : List Allocation → Nat
  | [] => 0
  | a :: as => (if a.route = route then Coin.total denom a.spendLimit else 0) + limitIn route denom as

/-- What a leave grants for a route in a denomination, over all its allocations. -/
def Authorization.limit (auth : Authorization) (route : Route) (denom : String) : Nat :=
  limitIn route denom auth.allocations

/-- What a stored leave grants, which is nothing if it is gone. -/
def storedLimit (route : Route) (denom : String) : Option Authorization → Nat
  | none => 0
  | some auth => auth.limit route denom

/-- What a transfer spends of a denomination on a route. -/
def Transfer.spending (t : Transfer) (route : Route) (denom : String) : Nat :=
  if t.route = route ∧ t.token.denom = denom then t.token.amount.toNat else 0

/-- What transfers spend of a denomination on a route. -/
def spent (route : Route) (denom : String) : List Transfer → Nat
  | [] => 0
  | t :: ts => t.spending route denom + spent route denom ts

variable {route : Route} {denom : String}

theorem limitIn_append (as bs : List Allocation) :
    limitIn route denom (as ++ bs) = limitIn route denom as + limitIn route denom bs := by
  induction as with
  | nil => exact (Nat.zero_add _).symm
  | cons a as ih =>
    show _ + limitIn route denom (as ++ bs) = _ + limitIn route denom as + limitIn route denom bs
    rw [ih, Nat.add_assoc]

/-- What is kept of an allocation grants what was left, also when that was nothing and no allocation is kept. -/
theorem limitIn_keep (a : Allocation) (left : Purse) :
    limitIn route denom (a.keep left) = if a.route = route then (left.amountOf denom).toNat else 0 := by
  unfold Allocation.keep
  split
  · rename_i hempty
    rw [Purse.amountOf_of_isEmpty hempty]
    exact (ite_self 0).symm
  · show (if a.route = route then Coin.total denom left.coins else 0) + 0 = _
    rw [Nat.add_zero, Purse.total_coins]

theorem storedLimit_ofRest (auth : Authorization) (as : List Allocation) :
    storedLimit route denom ((Verdict.ofRest as).remaining auth) = limitIn route denom as := by
  cases as with
  | nil => rfl
  | cons a as => rfl

/-! ## The invariant -/

/-- No allocation of the route stands for "no limit" in the denomination. -/
def Bounded (route : Route) (denom : String) (as : List Allocation) : Prop :=
  ∀ a ∈ as, a.route = route → Coin.total denom a.spendLimit ≠ Amount.max.toNat

/-- A stored leave is bounded if it is gone, or its allocations are. -/
def StoredBounded (route : Route) (denom : String) (stored : Option Authorization) : Prop :=
  ∀ auth, stored = some auth → Bounded route denom auth.allocations

theorem storedBounded_ofRest {auth : Authorization} {as : List Allocation} (h : Bounded route denom as) :
    StoredBounded route denom ((Verdict.ofRest as).remaining auth) := by
  intro rest hrest
  cases as with
  | nil => cases hrest
  | cons a as =>
    cases hrest
    exact h

/-- The denomination of a limit without bound is none in which the limit is bounded. -/
theorem amountOf_ne_max {cs : List Coin} {limit : Purse} (hlimit : Purse.ofCoins cs = .ok limit)
    (hb : Coin.total denom cs ≠ Amount.max.toNat) : limit.amountOf denom ≠ .max := by
  intro hmax
  apply hb
  rw [← Purse.amountOf_ofCoins hlimit, hmax]

/-- Taking a coin out of a bounded limit leaves a bounded limit: an amount below the largest one only goes down. -/
theorem bounded_keep {a : Allocation} {limit left : Purse} {c : Coin} (hlimit : Purse.ofCoins a.spendLimit = .ok limit)
    (hleft : limit.deduct c = .ok left) (hb : a.route = route → Coin.total denom a.spendLimit ≠ Amount.max.toNat) :
    Bounded route denom (a.keep left) := by
  intro x hx hroute
  unfold Allocation.keep at hx
  split at hx
  · exact absurd hx List.not_mem_nil
  · cases List.mem_singleton.1 hx
    show Coin.total denom left.coins ≠ _
    rw [Purse.total_coins]
    have htotal := Purse.amountOf_ofCoins hlimit denom
    have hdeduct := Purse.amountOf_deduct hleft denom
    have hlt := (limit.amountOf denom).toNat_lt
    have hmax : Amount.max.toNat = Amount.bound - 1 := rfl
    have hne := hb hroute
    omega

/-! ## One step -/

/-- **A verdict takes the transfer out of the limit.** For a bounded route and denomination, what the leave granted is
    what the transfer spends and what the remaining leave grants. -/
theorem limit_of_accept {auth : Authorization} {t : Transfer} {v : Verdict} (hb : Bounded route denom auth.allocations)
    (h : auth.accept t = .ok v) :
    auth.limit route denom = t.spending route denom + storedLimit route denom (v.remaining auth) := by
  obtain ⟨before, a, after, limit, hauth, hroute, -, -, hlimit, hv⟩ := auth.accept_eq_ok h
  rw [hauth] at hb
  have ha := hb a (List.mem_append_right before List.mem_cons_self)
  unfold Transfer.spending
  rcases hv with ⟨hmax, rfl⟩ | ⟨-, left, hleft, rfl⟩
  · -- a limit without bound is of another route or another denomination, of which the transfer spends nothing
    rw [if_neg]
    · exact (Nat.zero_add _).symm
    · rintro ⟨htr, rfl⟩
      exact amountOf_ne_max hlimit (ha (hroute.trans htr)) hmax
  · have hsplit : auth.limit route denom = limitIn route denom before +
        ((if a.route = route then Coin.total denom a.spendLimit else 0) + limitIn route denom after) := by
      unfold Authorization.limit
      rw [hauth, limitIn_append]
      rfl
    have htotal := Purse.amountOf_ofCoins hlimit denom
    have hdeduct := Purse.amountOf_deduct hleft denom
    rw [storedLimit_ofRest, limitIn_append, limitIn_append, limitIn_keep, hsplit, ← hroute]
    by_cases hr : a.route = route
    · simp only [hr, true_and, if_true]
      omega
    · simp only [hr, false_and, if_false]
      omega

theorem bounded_of_accept {auth : Authorization} {t : Transfer} {v : Verdict}
    (hb : Bounded route denom auth.allocations) (h : auth.accept t = .ok v) :
    StoredBounded route denom (v.remaining auth) := by
  obtain ⟨before, a, after, limit, hauth, -, -, -, hlimit, hv⟩ := auth.accept_eq_ok h
  rcases hv with ⟨-, rfl⟩ | ⟨-, left, hleft, rfl⟩
  · intro rest hrest
    cases hrest
    exact hb
  · rw [hauth] at hb
    apply storedBounded_ofRest
    intro x hx
    -- only the allocation that was spent from is new, and it takes its bound from what it was
    rcases List.mem_append.1 hx with hx | hx
    · rcases List.mem_append.1 hx with hx | hx
      · exact hb x (List.mem_append_left _ hx)
      · exact bounded_keep hlimit hleft (hb a (List.mem_append_right before List.mem_cons_self)) x hx
    · exact hb x (List.mem_append_right before (List.mem_cons_of_mem a hx))

/-! ## All steps -/

theorem spendAll_none (ts : List Transfer) : Authorization.spendAll none ts = ([], none) := by
  induction ts with
  | nil => rfl
  | cons t ts ih => exact ih

/-- **Over a whole run nothing is lost and nothing is made.** Induction on the transfers, over any bounded leave. -/
theorem spendAll_conserves {stored : Option Authorization} (hb : StoredBounded route denom stored)
    (ts : List Transfer) :
    storedLimit route denom stored = spent route denom (Authorization.spendAll stored ts).1 +
      storedLimit route denom (Authorization.spendAll stored ts).2 := by
  induction ts generalizing stored with
  | nil =>
    cases stored <;> exact (Nat.zero_add _).symm
  | cons t ts ih =>
    cases stored with
    | none =>
      rw [spendAll_none]
      rfl
    | some auth =>
      unfold Authorization.spendAll
      cases h : auth.accept t with
      | error e => exact ih hb
      | ok v =>
        -- what the first transfer took out, and then the run of the others from what it left
        show auth.limit route denom = t.spending route denom + spent route denom _ + storedLimit route denom _
        rw [limit_of_accept (hb auth rfl) h, ih (bounded_of_accept (hb auth rfl) h), Nat.add_assoc]

/-- **What was granted is what was spent and what is left.** So no run of transfers, of whatever routes and
    denominations, spends more than was granted. -/
theorem limit_eq_spent_add_left (auth : Authorization) (hb : Bounded route denom auth.allocations)
    (ts : List Transfer) :
    auth.limit route denom = spent route denom (Authorization.spendAll (some auth) ts).1 +
        storedLimit route denom (Authorization.spendAll (some auth) ts).2 ∧
      spent route denom (Authorization.spendAll (some auth) ts).1 ≤ auth.limit route denom := by
  have hstored : StoredBounded route denom (some auth) := by
    intro a ha
    cases ha
    exact hb
  have hall : auth.limit route denom = _ := spendAll_conserves hstored ts
  exact ⟨hall, by omega⟩

/-- Two allocations of one route, the first with a denomination twice and another one in between. -/
def doubleLeave : Authorization where
  allocations :=
    [⟨⟨"transfer", "channel-0"⟩,
      [⟨"uosmo", ⟨5, by decide⟩⟩, ⟨"uatom", ⟨7, by decide⟩⟩, ⟨"uosmo", ⟨4, by decide⟩⟩], []⟩,
     ⟨⟨"transfer", "channel-0"⟩, [⟨"uosmo", ⟨3, by decide⟩⟩], []⟩]

/-- The first three transfers use up the first allocation, so that the fourth meets the second one. The fifth is more
    than is left there. -/
def payments : List Transfer :=
  let pay (denom : String) (amount : Amount) : Transfer :=
    .along ⟨"transfer", "channel-0"⟩ ⟨denom, amount⟩ "osmo1sender" "stride1receiver" ""
  [pay "uosmo" ⟨6, by decide⟩, pay "uatom" ⟨7, by decide⟩, pay "uosmo" ⟨3, by decide⟩, pay "uosmo" ⟨2, by decide⟩,
   pay "uosmo" ⟨5, by decide⟩]

theorem left_of_doubleLeave : Bounded ⟨"transfer", "channel-0"⟩ "uosmo" doubleLeave.allocations ∧
    doubleLeave.limit ⟨"transfer", "channel-0"⟩ "uosmo" = 12 ∧
    spent ⟨"transfer", "channel-0"⟩ "uosmo" (Authorization.spendAll (some doubleLeave) payments).1 = 11 ∧
    storedLimit ⟨"transfer", "channel-0"⟩ "uosmo" (Authorization.spendAll (some doubleLeave) payments).2 = 1 := by
  have hb : Bounded ⟨"transfer", "channel-0"⟩ "uosmo" doubleLeave.allocations := by
    unfold Bounded
    decide
  have hlimit : doubleLeave.limit ⟨"transfer", "channel-0"⟩ "uosmo" = 12 := by decide
  have hspent : spent ⟨"transfer", "channel-0"⟩ "uosmo" (Authorization.spendAll (some doubleLeave) payments).1 = 11 := by
    decide
  obtain ⟨hall, -⟩ := limit_eq_spent_add_left doubleLeave hb payments
  refine ⟨hb, hlimit, hspent, ?_⟩
  rw [hlimit, hspent] at hall
  omega

end RemoteStaking
