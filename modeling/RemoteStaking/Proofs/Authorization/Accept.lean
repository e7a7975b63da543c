import RemoteStaking.Authorization.Basic

/-!
# `RemoteStaking.Proofs.Authorization.Accept` — what a verdict rests on

`Authorization.accept` looks for an allocation, adds up its limit, and takes the coin of the transfer out. Here it is
said once what follows from a verdict; nothing later opens the definition.

## Contents
- **`splitAtRoute_eq_some`**: the allocation that counts is the first one of its route.
- **`Allocation.spend_of_limit`**, **`Allocation.spend_eq_ok`**: what is left of one allocation.
- **`Authorization.accept_eq_ok`**: where the verdict comes from, and what it leaves.
-/

namespace RemoteStaking

theorem splitAtRoute_eq_some {route : Route} {as before after : List Allocation} {a : Allocation}
    (h : splitAtRoute route as = some (before, a, after)) :
    as = before ++ a :: after ∧ a.route = route ∧ ∀ b ∈ before, b.route ≠ route := by
  induction as generalizing before with
  | nil => cases h
  | cons b bs ih =>
    unfold splitAtRoute at h
    split at h
    · rename_i hb
      cases h
      exact ⟨rfl, hb, fun x hx => absurd hx List.not_mem_nil⟩
    · rename_i hb
      obtain ⟨⟨before', a', after'⟩, hs, heq⟩ := Option.map_eq_some_iff.1 h
      cases heq
      obtain ⟨hbs, hroute, hbefore⟩ := ih hs
      refine ⟨congrArg (b :: ·) hbs, hroute, ?_⟩
      intro x hx
      rcases List.mem_cons.1 hx with rfl | hx
      · exact hb
      · exact hbefore x hx

/-- What is left of an allocation whose limit adds up, if it allows the receiver. -/
theorem Allocation.spend_of_limit {a : Allocation} {t : Transfer} {limit : Purse} (hallows : a.allows t.receiver = true)
    (hlimit : Purse.ofCoins a.spendLimit = .ok limit) : a.spend t =
      if limit.amountOf t.token.denom = .max then .ok none
      else
        match limit.deduct t.token with
        | .error _ => .error (.overLimit t.token limit)
        | .ok left => .ok (some left) := by
  unfold spend
  rewrite [if_pos hallows, hlimit]
  rfl

/-- The limit adds up, and either it has no bound in the denomination of the coin or the coin was taken out of it. -/
theorem Allocation.spend_eq_ok {a : Allocation} {t : Transfer} {r : Option Purse} (h : a.spend t = .ok r) :
    a.allows t.receiver = true ∧ ∃ limit, Purse.ofCoins a.spendLimit = .ok limit ∧
      ((limit.amountOf t.token.denom = .max ∧ r = none) ∨
        (limit.amountOf t.token.denom ≠ .max ∧ ∃ left, limit.deduct t.token = .ok left ∧ r = some left)) := by
  unfold spend at h
  split at h
  · rename_i hallows
    refine ⟨hallows, ?_⟩
    split at h
    · cases h
    · rename_i limit hlimit
      refine ⟨limit, hlimit, ?_⟩
      split at h
      · rename_i hmax
        cases h
        exact .inl ⟨hmax, rfl⟩
      · rename_i hmax
        split at h
        · cases h
        · rename_i left hleft
          cases h
          exact .inr ⟨hmax, left, hleft, rfl⟩
  · cases h

/-- **Where a verdict comes from.** The first allocation of the route allows the receiver and its limit adds up. If the
    limit has no bound the leave stays as it is; otherwise the coin is taken out of that allocation alone. -/
theorem Authorization.accept_eq_ok {auth : Authorization} {t : Transfer} {v : Verdict} (h : auth.accept t = .ok v) :
    ∃ before a after limit, auth.allocations = before ++ a :: after ∧ a.route = t.route ∧
      (∀ b ∈ before, b.route ≠ t.route) ∧ a.allows t.receiver = true ∧ Purse.ofCoins a.spendLimit = .ok limit ∧
      ((limit.amountOf t.token.denom = .max ∧ v = .unlimited) ∨
        (limit.amountOf t.token.denom ≠ .max ∧ ∃ left, limit.deduct t.token = .ok left ∧
          v = .ofRest (before ++ a.keep left ++ after))) := by
  unfold accept at h
  split at h
  · cases h
  · rename_i before a after hsplit
    obtain ⟨hauth, hroute, hbefore⟩ := splitAtRoute_eq_some hsplit
    cases hs : a.spend t with
    | error e =>
      rw [hs] at h
      cases h
    | ok r =>
      obtain ⟨hallows, limit, hlimit, hr⟩ := a.spend_eq_ok hs
      refine ⟨before, a, after, limit, hauth, hroute, hbefore, hallows, hlimit, ?_⟩
      rcases hr with ⟨hmax, rfl⟩ | ⟨hmax, left, hleft, rfl⟩
      · rw [hs] at h
        cases h
        exact .inl ⟨hmax, rfl⟩
      · rw [hs] at h
        cases h
        exact .inr ⟨hmax, left, hleft, rfl⟩

end RemoteStaking
