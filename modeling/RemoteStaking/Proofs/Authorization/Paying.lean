import RemoteStaking.Proofs.Authorization.Ruling
import RemoteStaking.Proofs.Authorization.Spending

/-!
# `RemoteStaking.Proofs.Authorization.Paying` — what a transfer leaves behind

A leave is stored, a transfer is presented to it, and what the verdict leaves is stored in its place. Only the
allocation that is asked matters to the transfer, and only that one changes: it stays as it is, or has a lower limit, or
is gone.

## Contents
- **The step.** `Authorization.pay`, which is `none` if the transfer is refused, and `Authorization.ofRest`: what is
  stored of allocations.
- **One allocation.** `spend_eq_none_iff_amountOf`, `spend_eq_some_iff`: what `Allocation.spend` rests on. `kept`: what is
  kept of the allocation, which is all of it, or the same with the limit that is left (`withLimit`), or nothing.
- **All allocations.** `OnePerRoute`: no two are for the same route. `pay_of_governs`, `pay_eq_some_iff`: the one that
  is asked is replaced by what is kept of it.
-/

namespace RemoteStaking

/-! ## The step -/

/-- No two allocations are for the same route. -/
def OnePerRoute (as : List Allocation) : Prop :=
  (as.map (·.route)).Nodup

namespace Authorization

/-- What is stored of allocations, which is nothing if there are none. -/
def ofRest : List Allocation → Option Authorization
  | [] => none
  | as => some ⟨as⟩

/-- What is stored after a transfer, if it is accepted. Once the leave is gone all is refused. -/
def pay : Option Authorization → Transfer → Option (Option Authorization)
  | none, _ => none
  | some auth, t =>
    match auth.accept t with
    | .error _ => none
    | .ok v => some (v.remaining auth)

end Authorization

theorem Verdict.remaining_ofRest (auth : Authorization) (as : List Allocation) :
    (Verdict.ofRest as).remaining auth = Authorization.ofRest as := by
  cases as with
  | nil => rfl
  | cons a as => rfl

/-! ## One allocation -/

namespace Allocation

/-- What is kept of an allocation: all of it if its limit has no bound, else what is left of the limit. -/
def kept (a : Allocation) : Option Purse → List Allocation
  | none => [a]
  | some left => a.keep left

/-- The allocation with another limit. -/
def withLimit (a : Allocation) (limit : Purse) : Allocation :=
  { a with spendLimit := limit.coins }

@[simp] theorem spendLimit_withLimit (a : Allocation) (limit : Purse) : (a.withLimit limit).spendLimit = limit.coins :=
  rfl

variable {a b : Allocation} {t t₁ t₂ : Transfer} {limit left : Purse} {r : Option Purse}

theorem spend_eq_none_iff_amountOf : a.spend t = .ok none ↔
    a.allows t.receiver = true ∧ ∃ limit, Purse.ofCoins a.spendLimit = .ok limit ∧
      limit.amountOf t.token.denom = .max := by
  constructor
  · intro h
    obtain ⟨hallows, limit, hlimit, ⟨hmax, -⟩ | ⟨-, left, -, hr⟩⟩ := a.spend_eq_ok h
    · exact ⟨hallows, limit, hlimit, hmax⟩
    · cases hr
  · rintro ⟨hallows, limit, hlimit, hmax⟩
    rw [spend_of_limit hallows hlimit, if_pos hmax]

theorem spend_eq_some_iff : a.spend t = .ok (some left) ↔
    a.allows t.receiver = true ∧ ∃ limit, Purse.ofCoins a.spendLimit = .ok limit ∧
      limit.amountOf t.token.denom ≠ .max ∧ limit.deduct t.token = .ok left := by
  constructor
  · intro h
    obtain ⟨hallows, limit, hlimit, ⟨-, hr⟩ | ⟨hmax, left', hleft, hr⟩⟩ := a.spend_eq_ok h
    · cases hr
    · cases hr
      exact ⟨hallows, limit, hlimit, hmax, hleft⟩
  · rintro ⟨hallows, limit, hlimit, hmax, hleft⟩
    rw [spend_of_limit hallows hlimit, if_neg hmax, hleft]

/-! ### Limits that were written down -/

theorem spend_withLimit_eq_none_iff : (a.withLimit limit).spend t = .ok none ↔
    a.allows t.receiver = true ∧ limit.amountOf t.token.denom = .max := by
  rw [spend_eq_none_iff_amountOf, spendLimit_withLimit, Purse.ofCoins_coins]
  simp only [Except.ok.injEq, exists_eq_left']
  rfl

theorem spend_withLimit_eq_some_iff : (a.withLimit limit).spend t = .ok (some left) ↔
    a.allows t.receiver = true ∧ limit.amountOf t.token.denom ≠ .max ∧ limit.deduct t.token = .ok left := by
  rw [spend_eq_some_iff, spendLimit_withLimit, Purse.ofCoins_coins]
  simp only [Except.ok.injEq, exists_eq_left']
  rfl

theorem keep_of_pos {denom : String} (h : 0 < (left.amountOf denom).toNat) : a.keep left = [a.withLimit left] := by
  have hne : ¬ left.isEmpty = true := by
    intro hempty
    rw [Purse.amountOf_of_isEmpty hempty] at h
    exact Nat.lt_irrefl 0 h
  exact if_neg hne

theorem keep_eq_nil_or (a : Allocation) (left : Purse) : a.keep left = [] ∨ a.keep left = [a.withLimit left] := by
  unfold keep
  split
  · exact .inl rfl
  · exact .inr rfl

theorem eq_withLimit_of_mem_keep (h : b ∈ a.keep left) : b = a.withLimit left := by
  rcases a.keep_eq_nil_or left with hnil | hone
  · rw [hnil] at h
    exact absurd h List.not_mem_nil
  · rw [hone] at h
    exact List.mem_singleton.1 h

/-- Nothing is kept of an allocation of which nothing is left, and only then. -/
theorem kept_eq_nil_iff : a.kept r = [] ↔ r = some .empty := by
  cases r with
  | none => exact iff_of_false (List.cons_ne_nil a []) (by simp)
  | some left =>
    rw [Option.some.injEq, Purse.ext_iff]
    unfold kept keep Purse.isEmpty
    by_cases hnil : left.coins = []
    · simp [hnil, Purse.empty]
    · simp [hnil, Purse.empty]

/-- What is kept is one allocation for the same route, or none. -/
theorem kept_eq_nil_or (a : Allocation) (r : Option Purse) :
    a.kept r = [] ∨ ∃ b, a.kept r = [b] ∧ b.route = a.route := by
  cases r with
  | none => exact .inr ⟨a, rfl, rfl⟩
  | some left => exact (a.keep_eq_nil_or left).imp id fun h => ⟨a.withLimit left, h, rfl⟩

theorem kept_eq_singleton (h : b ∈ a.kept r) : a.kept r = [b] := by
  rcases a.kept_eq_nil_or r with hnil | ⟨c, hc, -⟩
  · rw [hnil] at h
    exact absurd h List.not_mem_nil
  · rw [hc] at h ⊢
    rw [List.mem_singleton.1 h]

theorem route_of_mem_kept (h : b ∈ a.kept r) : b.route = a.route := by
  rcases a.kept_eq_nil_or r with hnil | ⟨c, hc, hroute⟩
  · rw [hnil] at h
    exact absurd h List.not_mem_nil
  · rw [hc] at h
    rw [List.mem_singleton.1 h, hroute]

/-- A limit that has a bound in a denomination has one after a coin was taken out. -/
theorem amountOf_ne_max_of_deduct {c : Coin} {denom : String} (hmax : limit.amountOf denom ≠ .max)
    (hleft : limit.deduct c = .ok left) : left.amountOf denom ≠ .max := by
  intro heq
  apply hmax
  have hamount := Purse.amountOf_deduct hleft denom
  have hlt := (limit.amountOf denom).toNat_lt
  have hbound : Amount.max.toNat = Amount.bound - 1 := rfl
  rw [heq] at hamount
  exact Amount.ext (by omega)

/-- **A denomination without bound stays so**, and one with a bound, when something is taken out of the limit. -/
theorem spend_eq_none_iff_after (h₁ : a.spend t₁ = .ok (some left)) :
    (a.withLimit left).spend t₂ = .ok none ↔ a.spend t₂ = .ok none := by
  obtain ⟨-, limit, hlimit, hmax₁, hleft⟩ := spend_eq_some_iff.1 h₁
  rw [spend_withLimit_eq_none_iff, spend_eq_none_iff_amountOf]
  constructor
  · rintro ⟨hallows, hmax₂⟩
    refine ⟨hallows, limit, hlimit, ?_⟩
    exact Decidable.byContradiction fun hne => amountOf_ne_max_of_deduct hne hleft hmax₂
  · rintro ⟨hallows, limit', hlimit', hmax₂⟩
    obtain rfl : limit = limit' := Except.ok.inj (hlimit.symm.trans hlimit')
    -- the coin is of a denomination with a bound, so of another one
    have hdenom : t₁.token.denom ≠ t₂.token.denom := fun heq => hmax₁ (heq ▸ hmax₂)
    have hamount := Purse.amountOf_deduct hleft t₂.token.denom
    rw [if_neg hdenom, Nat.zero_add, hmax₂] at hamount
    exact ⟨hallows, Amount.ext hamount.symm⟩

end Allocation

/-! ## All allocations -/

namespace Authorization

variable {auth : Authorization} {t : Transfer} {before after : List Allocation} {a : Allocation}

theorem ofRest_of_ne_nil {as : List Allocation} (h : as ≠ []) : ofRest as = some ⟨as⟩ := by
  cases as with
  | nil => exact absurd rfl h
  | cons a as => rfl

theorem allocations_of_ofRest {as : List Allocation} {rest : Authorization} (h : ofRest as = some rest) :
    rest.allocations = as := by
  cases as with
  | nil => cases h
  | cons a as =>
    cases h
    rfl

theorem Governs.mem (h : auth.Governs t before a after) : a ∈ auth.allocations := by
  rw [h.split]
  exact List.mem_append_right before List.mem_cons_self

/-- Behind the only allocation for a route there is no other one. -/
theorem Governs.not_behind (h : auth.Governs t before a after) (hone : OnePerRoute auth.allocations) :
    ∀ b ∈ after, b.route ≠ t.route := by
  intro b hb hroute
  unfold OnePerRoute at hone
  rw [h.split, List.map_append, List.map_cons] at hone
  refine (List.nodup_cons.1 (List.nodup_append.1 hone).2.1).1 ?_
  rw [h.route_eq, ← hroute]
  exact List.mem_map_of_mem hb

/-- The only allocation for the route is the one that is asked. -/
theorem Governs.eq_of_mem {b : Allocation} (h : auth.Governs t before a after) (hone : OnePerRoute auth.allocations)
    (hb : b ∈ auth.allocations) (hroute : b.route = t.route) : b = a := by
  rw [h.split] at hb
  rcases List.mem_append.1 hb with hb | hb
  · exact absurd hroute (h.first b hb)
  · rcases List.mem_cons.1 hb with rfl | hb
    · rfl
    · exact absurd hroute (h.not_behind hone b hb)

/-- A leave without allocations is as good as none. -/
theorem pay_some (auth : Authorization) (t : Transfer) : pay (some auth) t = pay (ofRest auth.allocations) t := by
  by_cases hnil : auth.allocations = []
  · rw [hnil, pay, accept, hnil]
    rfl
  · rw [ofRest_of_ne_nil hnil]

/-- If there is an allocation for the route, the first one is asked. -/
theorem exists_governs (auth : Authorization) (t : Transfer) :
    (∀ a ∈ auth.allocations, a.route ≠ t.route) ∨ ∃ before a after, auth.Governs t before a after := by
  cases hsplit : splitAtRoute t.route auth.allocations with
  | none => exact .inl (splitAtRoute_eq_none_iff.1 hsplit)
  | some found =>
    obtain ⟨before, a, after⟩ := found
    obtain ⟨hauth, hroute, hbefore⟩ := splitAtRoute_eq_some hsplit
    exact .inr ⟨before, a, after, hauth, hroute, hbefore⟩

/-- **The allocation that is asked is replaced by what is kept of it**, and the others stay as they are. -/
theorem pay_of_governs (h : auth.Governs t before a after) : pay (some auth) t =
    match a.spend t with
    | .error _ => none
    | .ok r => some (ofRest (before ++ a.kept r ++ after)) := by
  rw [pay, accept_of_governs h]
  cases a.spend t with
  | error e => rfl
  | ok r =>
    cases r with
    | none =>
      have hsame : before ++ [a] ++ after = auth.allocations := by
        rw [h.split, List.append_assoc, List.singleton_append]
      have hne : auth.allocations ≠ [] := by
        rw [h.split]
        exact List.append_ne_nil_of_right_ne_nil before (List.cons_ne_nil a after)
      show some (some auth) = some (ofRest (before ++ [a] ++ after))
      rw [hsame, ofRest_of_ne_nil hne]
    | some left => exact congrArg some (Verdict.remaining_ofRest auth _)

theorem pay_of_no_route (h : ∀ a ∈ auth.allocations, a.route ≠ t.route) : pay (some auth) t = none := by
  rw [pay, accept, splitAtRoute_eq_none_iff.2 h]

/-- A transfer is accepted if the allocation that is asked covers it, and only then. -/
theorem pay_eq_some_iff {rest : Option Authorization} : pay (some auth) t = some rest ↔
    ∃ before a after r, auth.Governs t before a after ∧ a.spend t = .ok r ∧
      rest = ofRest (before ++ a.kept r ++ after) := by
  constructor
  · intro h
    rcases auth.exists_governs t with hnone | ⟨before, a, after, hgoverns⟩
    · rw [pay_of_no_route hnone] at h
      cases h
    · rw [pay_of_governs hgoverns] at h
      cases hspend : a.spend t with
      | error e =>
        rw [hspend] at h
        cases h
      | ok r =>
        rw [hspend] at h
        exact ⟨before, a, after, r, hgoverns, hspend, (Option.some.inj h).symm⟩
  · rintro ⟨before, a, after, r, hgoverns, hspend, rfl⟩
    rw [pay_of_governs hgoverns, hspend]

end Authorization

end RemoteStaking
