import RemoteStaking.Proofs.Authorization.Accept
import RemoteStaking.Proofs.Purse.Listing

/-!
# `RemoteStaking.Proofs.Authorization.Ruling` — the rules of a leave

What has to come of a transfer that is presented to a leave, said in terms of what the coins of a limit add up to
(`Coin.total`), without purses and without the order in which anything is looked for. There is a rule for every case, and
the rules agree with `Authorization.accept` in each.

## Contents
- **The rules.** `Governs`, `Permits`: the allocation that counts, and whether it allows the receiver. `AddsUp`, `Covers`,
  `Allocation.rest`: its limit. **`Ruling`**: what comes of the transfer.
- **One allocation.** What `Allocation.spend` yields in each case.
- **All allocations.** `accept_of_governs`, and the two halves of the main result: what the rules call for is what comes
  (`Ruling.accept_eq`), and they always call for something (`exists_ruling`).
- **`Authorization.accept_eq_iff_ruling`**.
-/

namespace RemoteStaking

/-! ## The rules -/

namespace Authorization

/-- The allocation is the first one for the route of the transfer; others stand before it and after it. -/
structure Governs (auth : Authorization) (t : Transfer) (before : List Allocation) (a : Allocation)
    (after : List Allocation) : Prop where
  split : auth.allocations = before ++ a :: after
  route_eq : a.route = t.route
  first : ∀ b ∈ before, b.route ≠ t.route

/-- The first allocation for the route allows the receiver: it lists none at all, or this one. -/
structure Permits (auth : Authorization) (t : Transfer) (before : List Allocation) (a : Allocation)
    (after : List Allocation) : Prop extends Governs auth t before a after where
  allowed : a.allowList = [] ∨ t.receiver ∈ a.allowList

end Authorization

namespace Allocation

/-- In no denomination do the coins of the limit add up to more than an amount can be. -/
def AddsUp (a : Allocation) : Prop :=
  ∀ denom, Coin.total denom a.spendLimit ≤ Amount.max.toNat

/-- The limit is one, and what is asked for is within it. -/
structure Covers (a : Allocation) (t : Transfer) : Prop where
  limited : Coin.total t.token.denom a.spendLimit ≠ Amount.max.toNat
  within : t.token.amount.toNat ≤ Coin.total t.token.denom a.spendLimit

/-- What the transfer leaves of the limit in each denomination. -/
def rest (a : Allocation) (t : Transfer) (denom : String) : Nat :=
  Coin.total denom a.spendLimit - if denom = t.token.denom then t.token.amount.toNat else 0

end Allocation

/-- **What comes of a transfer that is presented to a leave.** -/
inductive Ruling (auth : Authorization) (t : Transfer) : Except Refusal Verdict → Prop where
  /-- No allocation is for the route. -/
  | noAllocation (h : ∀ a ∈ auth.allocations, a.route ≠ t.route) : Ruling auth t (.error (.noAllocation t.route))
  /-- The allocation lists receivers, and this one is not among them. -/
  | receiverNotAllowed {before after : List Allocation} {a : Allocation} (h : auth.Governs t before a after)
      (hlist : a.allowList ≠ []) (hreceiver : t.receiver ∉ a.allowList) :
      Ruling auth t (.error (.receiverNotAllowed t.receiver))
  /-- The limit does not add up, in whatever denomination. -/
  | overflow {before after : List Allocation} {a : Allocation} (h : auth.Permits t before a after)
      (hover : ¬ a.AddsUp) : Ruling auth t (.error (.overLimit t.token .empty))
  /-- The limit adds up to less than what is asked for. -/
  | overLimit {before after : List Allocation} {a : Allocation} {limit : Purse} (h : auth.Permits t before a after)
      (hadds : a.AddsUp) (hover : Coin.total t.token.denom a.spendLimit < t.token.amount.toNat)
      (hlimit : Lists limit.coins fun denom => Coin.total denom a.spendLimit) :
      Ruling auth t (.error (.overLimit t.token limit))
  /-- The limit adds up to the largest amount, which stands for no limit. Nothing changes. -/
  | unlimited {before after : List Allocation} {a : Allocation} (h : auth.Permits t before a after)
      (hadds : a.AddsUp) (hmax : Coin.total t.token.denom a.spendLimit = Amount.max.toNat) :
      Ruling auth t (.ok .unlimited)
  /-- Something is left of the allocation. Nothing but its limit changes. -/
  | reduced {before after : List Allocation} {a : Allocation} {left : List Coin} (h : auth.Permits t before a after)
      (hadds : a.AddsUp) (hcovers : a.Covers t) (hleft : Lists left (a.rest t)) (hne : left ≠ []) :
      Ruling auth t (.ok (.reduced ⟨before ++ { a with spendLimit := left } :: after⟩))
  /-- Nothing is left of the allocation, but there are others. -/
  | removed {before after : List Allocation} {a : Allocation} (h : auth.Permits t before a after)
      (hadds : a.AddsUp) (hcovers : a.Covers t) (hnone : ∀ denom, a.rest t denom = 0) (hothers : before ++ after ≠ []) :
      Ruling auth t (.ok (.reduced ⟨before ++ after⟩))
  /-- Nothing is left of the allocation, and it was the only one. -/
  | exhausted {before after : List Allocation} {a : Allocation} (h : auth.Permits t before a after)
      (hadds : a.AddsUp) (hcovers : a.Covers t) (hnone : ∀ denom, a.rest t denom = 0) (hothers : before ++ after = []) :
      Ruling auth t (.ok .exhausted)

/-! ## One allocation -/

namespace Allocation

variable {a : Allocation} {t : Transfer}

theorem allows_iff (a : Allocation) (receiver : String) :
    a.allows receiver = true ↔ a.allowList = [] ∨ receiver ∈ a.allowList := by
  unfold allows
  rw [Bool.or_eq_true, List.isEmpty_iff, List.contains_iff_mem]

theorem spend_of_not_allowed (hlist : a.allowList ≠ []) (hreceiver : t.receiver ∉ a.allowList) :
    a.spend t = .error (.receiverNotAllowed t.receiver) := by
  have hallows : ¬ a.allows t.receiver = true := by
    intro h
    rcases (a.allows_iff t.receiver).1 h with h | h
    · exact hlist h
    · exact hreceiver h
  unfold spend
  rw [if_neg hallows]

/-- A limit adds up if its coins can be put together, and only then. -/
theorem addsUp_iff (a : Allocation) : a.AddsUp ↔ ∃ limit, Purse.ofCoins a.spendLimit = .ok limit :=
  Purse.exists_ofCoins_iff.symm

theorem spend_of_overflow (hallowed : a.allowList = [] ∨ t.receiver ∈ a.allowList) (hover : ¬ a.AddsUp) :
    a.spend t = .error (.overLimit t.token .empty) := by
  unfold spend
  rw [if_pos ((a.allows_iff t.receiver).2 hallowed)]
  cases hlimit : Purse.ofCoins a.spendLimit with
  | error e => rfl
  | ok limit =>
    exact absurd (a.addsUp_iff.2 ⟨limit, hlimit⟩) hover

/-- **The limit of an allocation that adds up**, on which all else rests once the receiver is allowed. -/
theorem exists_limit (hadds : a.AddsUp) : ∃ limit : Purse,
    (∀ denom, (limit.amountOf denom).toNat = Coin.total denom a.spendLimit) ∧
    ∀ t : Transfer, (a.allowList = [] ∨ t.receiver ∈ a.allowList) → a.spend t =
      if limit.amountOf t.token.denom = .max then .ok none
      else
        match limit.deduct t.token with
        | .error _ => .error (.overLimit t.token limit)
        | .ok left => .ok (some left) := by
  obtain ⟨limit, hlimit⟩ := a.addsUp_iff.1 hadds
  refine ⟨limit, Purse.amountOf_ofCoins hlimit, ?_⟩
  intro t hallowed
  exact spend_of_limit ((a.allows_iff t.receiver).2 hallowed) hlimit

theorem spend_of_overLimit {limit : Purse} (hallowed : a.allowList = [] ∨ t.receiver ∈ a.allowList) (hadds : a.AddsUp)
    (hover : Coin.total t.token.denom a.spendLimit < t.token.amount.toNat)
    (hlimit : Lists limit.coins fun denom => Coin.total denom a.spendLimit) :
    a.spend t = .error (.overLimit t.token limit) := by
  obtain ⟨found, hamounts, hspend⟩ := exists_limit hadds
  have hsame : found = limit := Purse.ext ((Purse.lists_of_amounts hamounts).unique hlimit)
  subst hsame
  have hmax : found.amountOf t.token.denom ≠ .max := by
    intro heq
    have hlt : t.token.amount.toNat < Amount.bound := t.token.amount.toNat_lt
    have htotal : Amount.bound - 1 = Coin.total t.token.denom a.spendLimit := by
      rw [← hamounts, heq]
      rfl
    omega
  obtain ⟨e, he⟩ := Purse.deduct_of_lt (p := found) (c := t.token) (hamounts t.token.denom ▸ hover)
  rw [hspend t hallowed, if_neg hmax, he]

theorem spend_of_unlimited (hallowed : a.allowList = [] ∨ t.receiver ∈ a.allowList) (hadds : a.AddsUp)
    (hmax : Coin.total t.token.denom a.spendLimit = Amount.max.toNat) : a.spend t = .ok none := by
  obtain ⟨limit, hamounts, hspend⟩ := exists_limit hadds
  have hamount : limit.amountOf t.token.denom = .max := Amount.ext ((hamounts _).trans hmax)
  rw [hspend t hallowed, if_pos hamount]

/-- **What is left of a limit that covers the transfer.** -/
theorem spend_of_covers (hallowed : a.allowList = [] ∨ t.receiver ∈ a.allowList) (hadds : a.AddsUp)
    (hcovers : a.Covers t) : ∃ left : Purse, a.spend t = .ok (some left) ∧ Lists left.coins (a.rest t) := by
  obtain ⟨limit, hamounts, hspend⟩ := exists_limit hadds
  have hmax : limit.amountOf t.token.denom ≠ .max := by
    intro heq
    apply hcovers.limited
    rw [← hamounts, heq]
  obtain ⟨left, hleft⟩ := Purse.deduct_of_le (p := limit) (c := t.token) (hamounts t.token.denom ▸ hcovers.within)
  refine ⟨left, ?_, Purse.lists_of_amounts ?_⟩
  · rw [hspend t hallowed, if_neg hmax, hleft]
  · intro denom
    have hamount := Purse.amountOf_deduct hleft denom
    rw [hamounts] at hamount
    unfold rest
    by_cases hdenom : denom = t.token.denom
    · rw [if_pos hdenom.symm] at hamount
      rw [if_pos hdenom]
      omega
    · rw [if_neg fun h => hdenom h.symm] at hamount
      rw [if_neg hdenom]
      omega

/-- What is left is an amount in each denomination. -/
theorem rest_lt (hadds : a.AddsUp) (denom : String) : a.rest t denom < Amount.bound := by
  have hle : Coin.total denom a.spendLimit ≤ Amount.bound - 1 := hadds denom
  have hpos : 0 < Amount.bound := by decide
  unfold rest
  omega

end Allocation

/-! ## All allocations -/

theorem splitAtRoute_eq_none_iff {route : Route} {as : List Allocation} :
    splitAtRoute route as = none ↔ ∀ a ∈ as, a.route ≠ route := by
  induction as with
  | nil => exact ⟨fun _ _ h => absurd h List.not_mem_nil, fun _ => rfl⟩
  | cons a as ih =>
    unfold splitAtRoute
    rw [List.forall_mem_cons]
    by_cases ha : a.route = route
    · rw [if_pos ha]
      constructor
      · intro h
        cases h
      · rintro ⟨hne, -⟩
        exact absurd ha hne
    · rw [if_neg ha, Option.map_eq_none_iff, ih]
      exact ⟨fun h => ⟨ha, h⟩, fun h => h.2⟩

theorem splitAtRoute_append {route : Route} {before after : List Allocation} {a : Allocation} (ha : a.route = route)
    (hbefore : ∀ b ∈ before, b.route ≠ route) :
    splitAtRoute route (before ++ a :: after) = some (before, a, after) := by
  induction before with
  | nil => exact if_pos ha
  | cons b bs ih =>
    have hrest := ih fun x hx => hbefore x (List.mem_cons_of_mem b hx)
    rw [List.cons_append, splitAtRoute, if_neg (hbefore b List.mem_cons_self), hrest]
    rfl

theorem Verdict.ofRest_of_ne_nil {as : List Allocation} (h : as ≠ []) : Verdict.ofRest as = .reduced ⟨as⟩ := by
  cases as with
  | nil => exact absurd rfl h
  | cons a as => rfl

namespace Authorization

variable {auth : Authorization} {t : Transfer} {before after : List Allocation} {a : Allocation}

/-- Of all allocations the first one for the route is asked. -/
theorem accept_of_governs (h : auth.Governs t before a after) : auth.accept t =
    match a.spend t with
    | .error e => .error e
    | .ok none => .ok .unlimited
    | .ok (some left) => .ok (.ofRest (before ++ a.keep left ++ after)) := by
  unfold accept
  rewrite [h.split, splitAtRoute_append h.route_eq h.first]
  rfl

/-- Only the limit of the allocation that is asked changes, and if nothing is left of it the allocation is gone. -/
theorem accept_of_covers (h : auth.Permits t before a after) (hadds : a.AddsUp) (hcovers : a.Covers t) :
    ∃ left, Lists left (a.rest t) ∧ auth.accept t =
      .ok (.ofRest (if left = [] then before ++ after else before ++ { a with spendLimit := left } :: after)) := by
  obtain ⟨left, hspend, hlists⟩ := Allocation.spend_of_covers h.allowed hadds hcovers
  refine ⟨left.coins, hlists, ?_⟩
  rw [accept_of_governs h.toGoverns, hspend]
  unfold Allocation.keep Purse.isEmpty
  by_cases hnil : left.coins = []
  · simp only [hnil, List.isEmpty_nil, if_true, List.append_nil]
  · have hempty : ¬ left.coins.isEmpty = true := fun hempty => hnil (List.isEmpty_iff.1 hempty)
    simp only [if_neg hempty, if_neg hnil, List.append_assoc, List.singleton_append]

end Authorization

variable {auth : Authorization} {t : Transfer} {r : Except Refusal Verdict}

/-- **What the rules call for is what comes.** -/
theorem Ruling.accept_eq (h : Ruling auth t r) : auth.accept t = r := by
  cases h with
  | noAllocation h =>
    unfold Authorization.accept
    rw [splitAtRoute_eq_none_iff.2 h]
  | receiverNotAllowed h hlist hreceiver =>
    rw [Authorization.accept_of_governs h, Allocation.spend_of_not_allowed hlist hreceiver]
  | overflow h hover =>
    rw [Authorization.accept_of_governs h.toGoverns, Allocation.spend_of_overflow h.allowed hover]
  | overLimit h hadds hover hlimit =>
    rw [Authorization.accept_of_governs h.toGoverns, Allocation.spend_of_overLimit h.allowed hadds hover hlimit]
  | unlimited h hadds hmax =>
    rw [Authorization.accept_of_governs h.toGoverns, Allocation.spend_of_unlimited h.allowed hadds hmax]
  | reduced h hadds hcovers hleft hne =>
    obtain ⟨left, hlists, haccept⟩ := Authorization.accept_of_covers h hadds hcovers
    have hsame := hlists.unique hleft
    subst hsame
    rw [haccept, if_neg hne, Verdict.ofRest_of_ne_nil (by simp)]
  | removed h hadds hcovers hnone hothers =>
    obtain ⟨left, hlists, haccept⟩ := Authorization.accept_of_covers h hadds hcovers
    have hnil : left = [] := (hlists.eq_nil_iff (Allocation.rest_lt hadds)).2 hnone
    rw [haccept, if_pos hnil, Verdict.ofRest_of_ne_nil hothers]
  | exhausted h hadds hcovers hnone hothers =>
    obtain ⟨left, hlists, haccept⟩ := Authorization.accept_of_covers h hadds hcovers
    have hnil : left = [] := (hlists.eq_nil_iff (Allocation.rest_lt hadds)).2 hnone
    rw [haccept, if_pos hnil, hothers]
    rfl

/-- If the allocation covers the transfer the rules call for one of the three verdicts on what is left. -/
theorem exists_ruling_of_covers {before after : List Allocation} {a : Allocation} (h : auth.Permits t before a after)
    (hadds : a.AddsUp) (hcovers : a.Covers t) : ∃ r, Ruling auth t r := by
  obtain ⟨left, hlists, -⟩ := Authorization.accept_of_covers h hadds hcovers
  by_cases hnil : left = []
  · have hnone : ∀ denom, a.rest t denom = 0 := (hlists.eq_nil_iff (Allocation.rest_lt hadds)).1 hnil
    by_cases hothers : before ++ after = []
    · exact ⟨_, .exhausted h hadds hcovers hnone hothers⟩
    · exact ⟨_, .removed h hadds hcovers hnone hothers⟩
  · exact ⟨_, .reduced h hadds hcovers hlists hnil⟩

/-- If the allocation allows the receiver the rules look at its limit. -/
theorem exists_ruling_of_permits {before after : List Allocation} {a : Allocation}
    (h : auth.Permits t before a after) : ∃ r, Ruling auth t r := by
  by_cases hadds : a.AddsUp
  · by_cases hmax : Coin.total t.token.denom a.spendLimit = Amount.max.toNat
    · exact ⟨_, .unlimited h hadds hmax⟩
    · rcases Nat.lt_or_ge (Coin.total t.token.denom a.spendLimit) t.token.amount.toNat with hover | hwithin
      · obtain ⟨limit, hamounts, -⟩ := Allocation.exists_limit hadds
        exact ⟨_, .overLimit h hadds hover (Purse.lists_of_amounts hamounts)⟩
      · exact exists_ruling_of_covers h hadds ⟨hmax, hwithin⟩
  · exact ⟨_, .overflow h hadds⟩

/-- **The rules always call for something.** -/
theorem exists_ruling (auth : Authorization) (t : Transfer) : ∃ r, Ruling auth t r := by
  cases hsplit : splitAtRoute t.route auth.allocations with
  | none => exact ⟨_, .noAllocation (splitAtRoute_eq_none_iff.1 hsplit)⟩
  | some found =>
    obtain ⟨before, a, after⟩ := found
    obtain ⟨hauth, hroute, hbefore⟩ := splitAtRoute_eq_some hsplit
    have hgoverns : auth.Governs t before a after := ⟨hauth, hroute, hbefore⟩
    by_cases hallowed : a.allowList = [] ∨ t.receiver ∈ a.allowList
    · exact exists_ruling_of_permits ⟨hgoverns, hallowed⟩
    · rw [not_or] at hallowed
      exact ⟨_, .receiverNotAllowed hgoverns hallowed.1 hallowed.2⟩

/-- **What comes of a transfer is what the rules call for**, and nothing else: a refusal with its reason, or a verdict with
    all that it leaves. -/
theorem Authorization.accept_eq_iff_ruling (auth : Authorization) (t : Transfer) (r : Except Refusal Verdict) :
    auth.accept t = r ↔ Ruling auth t r := by
  constructor
  · intro h
    obtain ⟨called, hcalled⟩ := exists_ruling auth t
    have hsame : called = r := hcalled.accept_eq.symm.trans h
    rwa [hsame] at hcalled
  · exact Ruling.accept_eq

end RemoteStaking
