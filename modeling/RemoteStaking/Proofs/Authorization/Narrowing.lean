import RemoteStaking.Proofs.Authorization.Paying

/-!
# `RemoteStaking.Proofs.Authorization.Narrowing` — what spending opens, and what it does not

A transfer that a leave refuses is refused by what is left of the leave as well: what is kept of an allocation covers
nothing that the allocation did not cover. There is one exception. An allocation that is used up goes away, and if
another one for the same route stands behind it, that one is asked from then on.

## Contents
- **`Allocation.covers_of_kept`**: of one allocation, less is kept than it was.
- **`Authorization.asked`**: the allocation that is asked for a route, by which alone a transfer is accepted or refused.
- **`Authorization.Uncovers`**: the exception. **`Authorization.refused_after_pay_iff`**: and no other.
-/

namespace RemoteStaking

variable {t t₁ t₂ : Transfer}

/-- **What is kept covers nothing new.** A transfer that is within what is left of a limit was within the limit. -/
theorem Allocation.covers_of_kept {a b : Allocation} {r₁ r₂ : Option Purse} (h₁ : a.spend t₁ = .ok r₁)
    (hb : b ∈ a.kept r₁) (h₂ : b.spend t₂ = .ok r₂) : ∃ r, a.spend t₂ = .ok r := by
  cases r₁ with
  | none =>
    rw [List.mem_singleton.1 hb] at h₂
    exact ⟨r₂, h₂⟩
  | some left =>
    rw [eq_withLimit_of_mem_keep hb] at h₂
    cases r₂ with
    | none => exact ⟨none, (spend_eq_none_iff_after h₁).1 h₂⟩
    | some left₂ =>
      obtain ⟨-, limit, hlimit, -, hleft⟩ := spend_eq_some_iff.1 h₁
      obtain ⟨hallows, -, hleft₂⟩ := spend_withLimit_eq_some_iff.1 h₂
      by_cases hmax : limit.amountOf t₂.token.denom = .max
      · exact ⟨none, spend_eq_none_iff_amountOf.2 ⟨hallows, limit, hlimit, hmax⟩⟩
      · -- what was there of the denomination is no less than what was left of it
        have hamount := Purse.amountOf_deduct hleft t₂.token.denom
        have hamount₂ := Purse.amountOf_deduct hleft₂ t₂.token.denom
        rw [if_pos rfl] at hamount₂
        obtain ⟨rest, hrest⟩ := Purse.deduct_of_le (p := limit) (c := t₂.token) (by omega)
        exact ⟨some rest, spend_eq_some_iff.2 ⟨hallows, limit, hlimit, hmax, hrest⟩⟩

namespace Authorization

variable {auth : Authorization} {as bs before after : List Allocation} {a : Allocation} {route : Route}

/-! ## The allocation that is asked -/

/-- The first of the allocations for a route. -/
def asked (route : Route) (as : List Allocation) : Option Allocation :=
  as.find? (·.route = route)

theorem asked_append (route : Route) (as bs : List Allocation) :
    asked route (as ++ bs) = (asked route as).or (asked route bs) :=
  List.find?_append

theorem asked_eq_none (h : ∀ a ∈ as, a.route ≠ route) : asked route as = none :=
  List.find?_eq_none.2 fun a ha => by simpa using h a ha

theorem asked_cons_of_eq (h : a.route = route) (as : List Allocation) : asked route (a :: as) = some a :=
  List.find?_cons_of_pos (by simpa using h)

theorem asked_of_governs (h : auth.Governs t before a after) : asked t.route auth.allocations = some a := by
  rw [h.split, asked_append, asked_eq_none h.first, asked_cons_of_eq h.route_eq]
  rfl

/-- **A transfer is refused if the allocation that is asked does not cover it**, or there is none. -/
theorem pay_eq_none_iff (as : List Allocation) (t : Transfer) :
    pay (ofRest as) t = none ↔ ∀ a, asked t.route as = some a → ∀ r, a.spend t ≠ .ok r := by
  by_cases hnil : as = []
  · subst hnil
    exact iff_of_true rfl fun a ha => by cases ha
  rw [ofRest_of_ne_nil hnil]
  rcases exists_governs ⟨as⟩ t with hnone | ⟨before, a, after, hgoverns⟩
  · rw [pay_of_no_route hnone, asked_eq_none hnone]
    exact iff_of_true rfl fun a ha => by cases ha
  · rw [pay_of_governs hgoverns, asked_of_governs hgoverns]
    cases hspend : a.spend t with
    | error e => simp [hspend]
    | ok r => simp [hspend]

/-- There is one first allocation for the route at most. -/
theorem Governs.unique {before' after' : List Allocation} {a' : Allocation} (h : auth.Governs t before a after)
    (h' : auth.Governs t before' a' after') : before = before' ∧ a = a' ∧ after = after' := by
  have hsplit : splitAtRoute t.route auth.allocations = some (before, a, after) := by
    rw [h.split, splitAtRoute_append h.route_eq h.first]
  rw [h'.split, splitAtRoute_append h'.route_eq h'.first] at hsplit
  cases hsplit
  exact ⟨rfl, rfl, rfl⟩

/-! ## Spending -/

/-- **The exception.** The first transfer uses up the allocation that is asked, and those behind it accept the second
    one, which goes over the same route. -/
def Uncovers (auth : Authorization) (t₁ t₂ : Transfer) : Prop :=
  ∃ before a after, auth.Governs t₁ before a after ∧ a.spend t₁ = .ok (some .empty) ∧ t₂.route = t₁.route ∧
    pay (ofRest after) t₂ ≠ none

/-- If no two allocations are for the same route there is none behind the one that is asked. -/
theorem not_uncovers_of_onePerRoute (h : OnePerRoute auth.allocations) (t₁ t₂ : Transfer) : ¬ auth.Uncovers t₁ t₂ := by
  rintro ⟨before, a, after, hgoverns, -, hroute, hbehind⟩
  apply hbehind
  rw [pay_eq_none_iff, asked_eq_none]
  · intro a ha
    cases ha
  · intro b hb
    rw [hroute]
    exact hgoverns.not_behind h b hb

/-- A transfer over another route is asked of the same allocation as before. -/
theorem asked_of_other_route {r : Option Purse} (h : auth.Governs t₁ before a after) (hroute : route ≠ t₁.route) :
    asked route (before ++ a.kept r ++ after) = asked route auth.allocations := by
  have ha : asked route [a] = none := asked_eq_none fun b hb => by
    rw [List.mem_singleton.1 hb, h.route_eq]
    exact hroute.symm
  have hkept : asked route (a.kept r) = none := asked_eq_none fun b hb => by
    rw [Allocation.route_of_mem_kept hb, h.route_eq]
    exact hroute.symm
  rw [h.split, ← List.singleton_append, ← List.append_assoc, asked_append, asked_append, asked_append, asked_append, ha,
    hkept]

/-- A transfer over the same route is asked of what is kept, and if nothing is, of those behind. -/
theorem asked_of_same_route {r : Option Purse} (h : auth.Governs t₁ before a after) :
    asked t₁.route (before ++ a.kept r ++ after) = (asked t₁.route (a.kept r)).or (asked t₁.route after) := by
  rw [List.append_assoc, asked_append, asked_eq_none h.first, asked_append]
  rfl

/-- **What is kept of the allocation refuses what the leave refuses.** -/
theorem refused_of_kept {r : Option Purse} {b : Allocation} (h : auth.Governs t₁ before a after)
    (hspend : a.spend t₁ = .ok r) (hkept : a.kept r = [b]) (hroute : t₂.route = t₁.route)
    (h₂ : pay (some auth) t₂ = none) : pay (ofRest (before ++ a.kept r ++ after)) t₂ = none := by
  have hb : b ∈ a.kept r := by
    rw [hkept]
    exact List.mem_singleton_self b
  have hasked : asked t₁.route [b] = some b := asked_cons_of_eq ((Allocation.route_of_mem_kept hb).trans h.route_eq) []
  rw [pay_some, pay_eq_none_iff, hroute, asked_of_governs h] at h₂
  rw [pay_eq_none_iff, hroute, asked_of_same_route h, hkept, hasked]
  intro c hc r₂ hspend₂
  cases hc
  obtain ⟨r', hr'⟩ := Allocation.covers_of_kept hspend hb hspend₂
  exact h₂ a rfl r' hr'

/-- Where nothing is kept, those behind decide. -/
theorem refused_iff_behind (h : auth.Governs t₁ before a after) (hroute : t₂.route = t₁.route) :
    pay (ofRest (before ++ a.kept (some .empty) ++ after)) t₂ = none ↔ pay (ofRest after) t₂ = none := by
  rw [pay_eq_none_iff, pay_eq_none_iff, hroute, asked_of_same_route h, Allocation.kept_eq_nil_iff.2 rfl]
  rfl

theorem uncovers_iff {r : Option Purse} (h : auth.Governs t₁ before a after) (hspend : a.spend t₁ = .ok r) :
    auth.Uncovers t₁ t₂ ↔ r = some .empty ∧ t₂.route = t₁.route ∧ pay (ofRest after) t₂ ≠ none := by
  constructor
  · rintro ⟨before', a', after', h', hspend', hroute, hbehind⟩
    obtain ⟨rfl, rfl, rfl⟩ := h.unique h'
    rw [hspend] at hspend'
    exact ⟨Except.ok.inj hspend', hroute, hbehind⟩
  · rintro ⟨rfl, hroute, hbehind⟩
    exact ⟨before, a, after, h, hspend, hroute, hbehind⟩

/-- **Spending opens nothing, with one exception.** What a leave refuses is refused by what a transfer leaves of it,
    unless the transfer uncovers an allocation that accepts it. Where no two allocations are for the same route there is
    none to be uncovered. -/
theorem refused_after_pay_iff {rest : Option Authorization} (h₁ : pay (some auth) t₁ = some rest)
    (h₂ : pay (some auth) t₂ = none) :
    (pay rest t₂ = none ↔ ¬ auth.Uncovers t₁ t₂) ∧ (OnePerRoute auth.allocations → pay rest t₂ = none) := by
  obtain ⟨before, a, after, r, hgoverns, hspend, rfl⟩ := pay_eq_some_iff.1 h₁
  have hiff : pay (ofRest (before ++ a.kept r ++ after)) t₂ = none ↔ ¬ auth.Uncovers t₁ t₂ := by
    rw [uncovers_iff hgoverns hspend]
    by_cases hroute : t₂.route = t₁.route
    · rcases a.kept_eq_nil_or r with hnil | ⟨b, hb, -⟩
      · obtain rfl : r = some .empty := Allocation.kept_eq_nil_iff.1 hnil
        rw [refused_iff_behind hgoverns hroute]
        simp only [hroute, true_and, ne_eq, Decidable.not_not]
      · refine iff_of_true (refused_of_kept hgoverns hspend hb hroute h₂) ?_
        rintro ⟨hempty, -, -⟩
        rw [Allocation.kept_eq_nil_iff.2 hempty] at hb
        cases hb
    · refine iff_of_true ?_ fun hall => hroute hall.2.1
      rw [pay_some, pay_eq_none_iff] at h₂
      rw [pay_eq_none_iff, asked_of_other_route hgoverns hroute]
      exact h₂
  exact ⟨hiff, fun hone => hiff.2 (not_uncovers_of_onePerRoute hone t₁ t₂)⟩

/-- Leave to send so many coins over a channel, to everybody. -/
def leaveOver (channel : String) (amount : Amount) : Allocation :=
  ⟨⟨"transfer", channel⟩, [⟨"uosmo", amount⟩], []⟩

/-- A transfer of so many coins over channel 0. -/
def payment (amount : Amount) : Transfer :=
  .along ⟨"transfer", "channel-0"⟩ ⟨"uosmo", amount⟩ "osmo1sender" "stride1receiver" ""

/-- Little for channel 0, and much for channel 1. -/
def apartLeave : Authorization :=
  ⟨[leaveOver "channel-0" ⟨15, by decide⟩, leaveOver "channel-1" ⟨95, by decide⟩]⟩

/-- Once the allocation for channel 0 is used up, that for channel 1 is of no use to a larger transfer. -/
theorem apartLeave_refuses_after :
    pay (some apartLeave) (payment ⟨15, by decide⟩) = some (some ⟨[leaveOver "channel-1" ⟨95, by decide⟩]⟩) ∧
    pay (some apartLeave) (payment ⟨50, by decide⟩) = none ∧
    pay (some ⟨[leaveOver "channel-1" ⟨95, by decide⟩]⟩) (payment ⟨50, by decide⟩) = none := by
  have h₁ : pay (some apartLeave) (payment ⟨15, by decide⟩) =
      some (some ⟨[leaveOver "channel-1" ⟨95, by decide⟩]⟩) := rfl
  have h₂ : pay (some apartLeave) (payment ⟨50, by decide⟩) = none := rfl
  refine ⟨h₁, h₂, (refused_after_pay_iff h₁ h₂).2 ?_⟩
  unfold OnePerRoute
  decide

/-- Little for channel 0, and behind it much for the same channel. -/
def layeredLeave : Authorization :=
  ⟨[leaveOver "channel-0" ⟨15, by decide⟩, leaveOver "channel-0" ⟨95, by decide⟩]⟩

/-- **Two allocations for one route.** Fifty coins are too many for the first one, and no longer too many once another
    transfer has used it up. -/
theorem layeredLeave_accepts_after :
    pay (some layeredLeave) (payment ⟨15, by decide⟩) = some (some ⟨[leaveOver "channel-0" ⟨95, by decide⟩]⟩) ∧
    0 < (payment ⟨50, by decide⟩).token.amount.toNat ∧
    pay (some layeredLeave) (payment ⟨50, by decide⟩) = none ∧
    pay (some ⟨[leaveOver "channel-0" ⟨95, by decide⟩]⟩) (payment ⟨50, by decide⟩) =
      some (some ⟨[leaveOver "channel-0" ⟨45, by decide⟩]⟩) :=
  ⟨rfl, by decide, rfl, rfl⟩

end Authorization

end RemoteStaking
