import RemoteStaking.Proofs.Authorization.Paying

/-!
# `RemoteStaking.Proofs.Authorization.Ordering` — transfers in any order, in one piece or in two

Several transfers are made if each one is accepted by what the ones before it left. Where no two allocations are for
the same route, it does not matter in which order they are made, nor whether one of them is made in two parts: either
all goes through both ways, and the same is left, or it goes through neither way.

## Contents
- **`Authorization.payAll`**: all the transfers, or nothing.
- **Allocations in place of others.** `replaceRoute`, and `pay_eq_some_iff_of_onePerRoute`: one transfer in terms of it.
- **Two transfers from one allocation.** `Allocation.KeepsAfter`; `KeepsAfter.swap` and `keepsAfter_parts_iff` for two
  transfers that change places and for the two parts of one.
- **`payAll_perm`**, **`payAll_parts`**: the same for leaves.
-/

namespace RemoteStaking

namespace Authorization

/-- What is stored after transfers, made one after the other, if all of them are accepted. -/
def payAll (stored : Option Authorization) (ts : List Transfer) : Option (Option Authorization) :=
  ts.foldlM pay stored

variable {as kept kept₁ kept₂ : List Allocation} {a b : Allocation} {route route₁ route₂ : Route} {t t₁ t₂ : Transfer}
  {rest : Option Authorization}

/-! ## Allocations in place of others -/

/-- The allocations, with others in place of those for a route. -/
def replaceRoute (route : Route) (kept as : List Allocation) : List Allocation :=
  as.flatMap fun b => if b.route = route then kept else [b]

theorem replaceRoute_cons_of_eq (h : a.route = route) (kept as : List Allocation) :
    replaceRoute route kept (a :: as) = kept ++ replaceRoute route kept as := by
  unfold replaceRoute
  rw [List.flatMap_cons, if_pos h]

theorem replaceRoute_cons_of_ne (h : a.route ≠ route) (kept as : List Allocation) :
    replaceRoute route kept (a :: as) = a :: replaceRoute route kept as := by
  unfold replaceRoute
  rw [List.flatMap_cons, if_neg h, List.singleton_append]

theorem replaceRoute_append (route : Route) (kept as bs : List Allocation) :
    replaceRoute route kept (as ++ bs) = replaceRoute route kept as ++ replaceRoute route kept bs :=
  List.flatMap_append

theorem replaceRoute_of_ne (h : ∀ a ∈ as, a.route ≠ route) : replaceRoute route kept as = as := by
  induction as with
  | nil => rfl
  | cons a as ih =>
    rw [replaceRoute_cons_of_ne (h a List.mem_cons_self), ih fun b hb => h b (List.mem_cons_of_mem a hb)]

theorem mem_replaceRoute :
    b ∈ replaceRoute route kept as ↔ (b ∈ kept ∧ ∃ a ∈ as, a.route = route) ∨ (b ∈ as ∧ b.route ≠ route) := by
  unfold replaceRoute
  rw [List.mem_flatMap]
  constructor
  · rintro ⟨a, ha, hb⟩
    by_cases hroute : a.route = route
    · rw [if_pos hroute] at hb
      exact .inl ⟨hb, a, ha, hroute⟩
    · rw [if_neg hroute] at hb
      rw [List.mem_singleton.1 hb]
      exact .inr ⟨ha, hroute⟩
  · rintro (⟨hb, a, ha, hroute⟩ | ⟨hb, hroute⟩)
    · refine ⟨a, ha, ?_⟩
      rwa [if_pos hroute]
    · refine ⟨b, hb, ?_⟩
      rw [if_neg hroute]
      exact List.mem_singleton_self b

/-- Replacements for different routes do not meet. -/
theorem replaceRoute_comm (hne : route₁ ≠ route₂) (h₁ : ∀ b ∈ kept₁, b.route = route₁)
    (h₂ : ∀ b ∈ kept₂, b.route = route₂) (as : List Allocation) :
    replaceRoute route₂ kept₂ (replaceRoute route₁ kept₁ as) =
      replaceRoute route₁ kept₁ (replaceRoute route₂ kept₂ as) := by
  have hkept₁ : replaceRoute route₂ kept₂ kept₁ = kept₁ := replaceRoute_of_ne fun b hb => h₁ b hb ▸ hne
  have hkept₂ : replaceRoute route₁ kept₁ kept₂ = kept₂ := replaceRoute_of_ne fun b hb => h₂ b hb ▸ hne.symm
  induction as with
  | nil => rfl
  | cons a as ih =>
    by_cases ha₁ : a.route = route₁
    · have ha₂ : a.route ≠ route₂ := ha₁ ▸ hne
      rw [replaceRoute_cons_of_eq ha₁, replaceRoute_append, hkept₁, ih, replaceRoute_cons_of_ne ha₂,
        replaceRoute_cons_of_eq ha₁]
    · by_cases ha₂ : a.route = route₂
      · rw [replaceRoute_cons_of_ne ha₁, replaceRoute_cons_of_eq ha₂, replaceRoute_cons_of_eq ha₂, replaceRoute_append,
          hkept₂, ih]
      · rw [replaceRoute_cons_of_ne ha₁, replaceRoute_cons_of_ne ha₂, replaceRoute_cons_of_ne ha₂,
          replaceRoute_cons_of_ne ha₁, ih]

/-- Of two replacements for one route the later one counts. -/
theorem replaceRoute_twice (hb : b.route = route) (kept as : List Allocation) :
    replaceRoute route kept (replaceRoute route [b] as) = replaceRoute route kept as := by
  induction as with
  | nil => rfl
  | cons a as ih =>
    by_cases ha : a.route = route
    · rw [replaceRoute_cons_of_eq ha, List.singleton_append, replaceRoute_cons_of_eq hb, replaceRoute_cons_of_eq ha, ih]
    · rw [replaceRoute_cons_of_ne ha, replaceRoute_cons_of_ne ha, replaceRoute_cons_of_ne ha, ih]

/-- What is kept of an allocation in its place makes no second one for the route. -/
theorem onePerRoute_replaceRoute (h : OnePerRoute as) (hroute : a.route = route) (r : Option Purse) :
    OnePerRoute (replaceRoute route (a.kept r) as) := by
  subst hroute
  have hkept : ((a.kept r).map (·.route)).Sublist [a.route] := by
    rcases a.kept_eq_nil_or r with hnil | ⟨c, hc, hroute⟩
    · rw [hnil]
      exact List.nil_sublist _
    · have hsame : (a.kept r).map (·.route) = [a.route] := by rw [hc, List.map_singleton, hroute]
      exact hsame.symm ▸ List.Sublist.refl _
  have hsublist : ((replaceRoute a.route (a.kept r) as).map (·.route)).Sublist (as.map (·.route)) := by
    clear h
    induction as with
    | nil => exact List.Sublist.refl _
    | cons b bs ih =>
      by_cases hb : b.route = a.route
      · rw [replaceRoute_cons_of_eq hb, List.map_append, List.map_cons, hb, ← List.singleton_append]
        exact hkept.append ih
      · rw [replaceRoute_cons_of_ne hb, List.map_cons, List.map_cons]
        exact ih.cons_cons _
  exact h.sublist hsublist

/-! ## One transfer -/

/-- The allocation that is asked is the only one that is replaced. -/
theorem replaceRoute_of_governs {auth : Authorization} {before after : List Allocation}
    (hone : OnePerRoute auth.allocations) (h : auth.Governs t before a after) (kept : List Allocation) :
    replaceRoute t.route kept auth.allocations = before ++ kept ++ after := by
  rw [h.split, replaceRoute_append, replaceRoute_cons_of_eq h.route_eq, replaceRoute_of_ne h.first,
    replaceRoute_of_ne (h.not_behind hone), List.append_assoc]

/-- **One transfer.** It is accepted if an allocation for its route covers it, and what is kept replaces that one. -/
theorem pay_eq_some_iff_of_onePerRoute (hone : OnePerRoute as) : pay (ofRest as) t = some rest ↔
    ∃ a ∈ as, a.route = t.route ∧ ∃ r, a.spend t = .ok r ∧ rest = ofRest (replaceRoute t.route (a.kept r) as) := by
  rw [← pay_some ⟨as⟩, pay_eq_some_iff]
  constructor
  · rintro ⟨before, a, after, r, hgoverns, hspend, rfl⟩
    refine ⟨a, hgoverns.mem, hgoverns.route_eq, r, hspend, ?_⟩
    rw [replaceRoute_of_governs hone hgoverns]
  · rintro ⟨a, ha, hroute, r, hspend, rfl⟩
    rcases exists_governs ⟨as⟩ t with hnone | ⟨before, a', after, hgoverns⟩
    · exact absurd hroute (hnone a ha)
    · obtain rfl := hgoverns.eq_of_mem hone ha hroute
      refine ⟨before, a, after, r, hgoverns, hspend, ?_⟩
      rw [replaceRoute_of_governs hone hgoverns]

/-- What is left has one allocation for a route at most, too. -/
theorem exists_rest_of_pay (h : OnePerRoute as) (hpay : pay (ofRest as) t = some rest) :
    ∃ as', OnePerRoute as' ∧ rest = ofRest as' := by
  obtain ⟨a, -, hroute, r, -, rfl⟩ := (pay_eq_some_iff_of_onePerRoute h).1 hpay
  exact ⟨_, onePerRoute_replaceRoute h hroute r, rfl⟩

end Authorization

/-! ## Two transfers from one allocation -/

namespace Allocation

variable {a : Allocation} {t t₁ t₂ : Transfer} {left : Purse} {kept : List Allocation}

/-- What is kept of an allocation after two transfers that it covers, one after the other. -/
def KeepsAfter (a : Allocation) (t₁ t₂ : Transfer) (kept : List Allocation) : Prop :=
  ∃ r₁ b r₂, a.spend t₁ = .ok r₁ ∧ b ∈ a.kept r₁ ∧ b.spend t₂ = .ok r₂ ∧ kept = b.kept r₂

/-- An allocation that covers something is not an empty one, so it is kept. -/
theorem mem_kept_of_covers {r : Option Purse} (hpos : 0 < t.token.amount.toNat)
    (h : (a.withLimit left).spend t = .ok r) : a.withLimit left ∈ a.kept (some left) := by
  have hleft : 0 < (left.amountOf t.token.denom).toNat := by
    cases r with
    | none =>
      rw [(spend_withLimit_eq_none_iff.1 h).2]
      decide
    | some rest =>
      obtain ⟨-, -, hrest⟩ := spend_withLimit_eq_some_iff.1 h
      have hamount := Purse.amountOf_deduct hrest t.token.denom
      rw [if_pos rfl] at hamount
      omega
  rw [kept, keep_of_pos hleft]
  exact List.mem_singleton_self _

/-- Two coins are taken out of a limit in either order. -/
theorem spend_some_swap {left₁ : Purse} (h₁ : a.spend t₁ = .ok (some left₁))
    (h₂ : (a.withLimit left₁).spend t₂ = .ok (some left)) :
    ∃ left₂, a.spend t₂ = .ok (some left₂) ∧ (a.withLimit left₂).spend t₁ = .ok (some left) := by
  -- a denomination without bound would still be so
  have hbound : a.spend t₂ ≠ .ok none := by
    intro hnone
    rw [(spend_eq_none_iff_after h₁).2 hnone] at h₂
    cases h₂
  obtain ⟨hallows₁, limit, hlimit, hmax₁, hleft₁⟩ := spend_eq_some_iff.1 h₁
  obtain ⟨hallows₂, -, hleft⟩ := spend_withLimit_eq_some_iff.1 h₂
  have hmax₂ : limit.amountOf t₂.token.denom ≠ .max :=
    fun hmax => hbound (spend_eq_none_iff_amountOf.2 ⟨hallows₂, limit, hlimit, hmax⟩)
  obtain ⟨left₂, hleft₂, hleft'⟩ := Purse.deduct_comm hleft₁ hleft
  exact ⟨left₂, spend_eq_some_iff.2 ⟨hallows₂, limit, hlimit, hmax₂, hleft₂⟩,
    spend_withLimit_eq_some_iff.2 ⟨hallows₁, amountOf_ne_max_of_deduct hmax₁ hleft₂, hleft'⟩⟩

/-- **Two transfers from one allocation can change places.** The first one has to move something: then there is
    something left for it after the second one, and the allocation is kept until it comes. -/
theorem KeepsAfter.swap (hpos : 0 < t₁.token.amount.toNat) (h : a.KeepsAfter t₁ t₂ kept) :
    a.KeepsAfter t₂ t₁ kept := by
  obtain ⟨r₁, b, r₂, h₁, hb, h₂, rfl⟩ := h
  cases r₁ with
  | none =>
    obtain rfl := List.mem_singleton.1 hb
    cases r₂ with
    | none => exact ⟨none, b, none, h₂, hb, h₁, rfl⟩
    | some left =>
      have h₁' : (b.withLimit left).spend t₁ = .ok none := (spend_eq_none_iff_after h₂).2 h₁
      have hmem : b.withLimit left ∈ b.kept (some left) := mem_kept_of_covers hpos h₁'
      exact ⟨some left, b.withLimit left, none, h₂, hmem, h₁', kept_eq_singleton hmem⟩
  | some left₁ =>
    have hkept : a.kept (some left₁) = [b] := kept_eq_singleton hb
    obtain rfl := eq_withLimit_of_mem_keep hb
    cases r₂ with
    | none =>
      have h₂' : a.spend t₂ = .ok none := (spend_eq_none_iff_after h₁).1 h₂
      exact ⟨none, a, some left₁, h₂', List.mem_singleton_self a, h₁, hkept.symm⟩
    | some left =>
      obtain ⟨left₂, h₂', h₁'⟩ := spend_some_swap h₁ h₂
      exact ⟨some left₂, a.withLimit left₂, some left, h₂', mem_kept_of_covers hpos h₁', h₁', rfl⟩

end Allocation

/-! ### The two parts of a transfer -/

/-- The transfer of another amount. -/
def Transfer.withAmount (t : Transfer) (x : Amount) : Transfer :=
  { t with token := ⟨t.token.denom, x⟩ }

namespace Allocation

variable {a : Allocation} {t : Transfer} {left : Purse} {kept : List Allocation} {x y : Amount}

/-- Whether a limit has no bound does not depend on the amount. -/
theorem spend_withAmount_eq_none_iff (x : Amount) : a.spend (t.withAmount x) = .ok none ↔ a.spend t = .ok none := by
  rw [spend_eq_none_iff_amountOf, spend_eq_none_iff_amountOf]
  rfl

/-- Two parts are taken out of a limit as the whole is. -/
theorem spend_parts_iff (h : x.toNat + y.toNat < Amount.bound) :
    (∃ left₁, a.spend (t.withAmount x) = .ok (some left₁) ∧
      (a.withLimit left₁).spend (t.withAmount y) = .ok (some left)) ↔
    a.spend (t.withAmount ⟨x.toNat + y.toNat, h⟩) = .ok (some left) := by
  constructor
  · rintro ⟨left₁, h₁, h₂⟩
    obtain ⟨hallows, limit, hlimit, hmax, hleft₁⟩ := spend_eq_some_iff.1 h₁
    obtain ⟨-, -, hleft⟩ := spend_withLimit_eq_some_iff.1 h₂
    exact spend_eq_some_iff.2 ⟨hallows, limit, hlimit, hmax, (Purse.deduct_parts_iff h).1 ⟨left₁, hleft₁, hleft⟩⟩
  · intro hwhole
    obtain ⟨hallows, limit, hlimit, hmax, hleft⟩ := spend_eq_some_iff.1 hwhole
    obtain ⟨left₁, hleft₁, hleft⟩ := (Purse.deduct_parts_iff h).2 hleft
    exact ⟨left₁, spend_eq_some_iff.2 ⟨hallows, limit, hlimit, hmax, hleft₁⟩,
      spend_withLimit_eq_some_iff.2 ⟨hallows, amountOf_ne_max_of_deduct hmax hleft₁, hleft⟩⟩

/-- **A transfer from one allocation can be made in two parts.** The second one has to move something, so that the
    allocation is kept until it comes. -/
theorem keepsAfter_parts_iff (hy : 0 < y.toNat) (h : x.toNat + y.toNat < Amount.bound) :
    a.KeepsAfter (t.withAmount x) (t.withAmount y) kept ↔
      ∃ r, a.spend (t.withAmount ⟨x.toNat + y.toNat, h⟩) = .ok r ∧ kept = a.kept r := by
  constructor
  · rintro ⟨r₁, b, r₂, h₁, hb, h₂, rfl⟩
    cases r₁ with
    | none =>
      obtain rfl := List.mem_singleton.1 hb
      have hnone : b.spend t = .ok none := (spend_withAmount_eq_none_iff x).1 h₁
      rw [(spend_withAmount_eq_none_iff y).2 hnone] at h₂
      cases h₂
      exact ⟨none, (spend_withAmount_eq_none_iff _).2 hnone, rfl⟩
    | some left₁ =>
      obtain rfl := eq_withLimit_of_mem_keep hb
      cases r₂ with
      | none =>
        -- the limit would have had no bound for the first part either
        have hnone : a.spend t = .ok none := (spend_withAmount_eq_none_iff y).1 ((spend_eq_none_iff_after h₁).1 h₂)
        rw [(spend_withAmount_eq_none_iff x).2 hnone] at h₁
        cases h₁
      | some left => exact ⟨some left, (spend_parts_iff h).1 ⟨left₁, h₁, h₂⟩, rfl⟩
  · rintro ⟨r, hwhole, rfl⟩
    cases r with
    | none =>
      have hnone : a.spend t = .ok none := (spend_withAmount_eq_none_iff _).1 hwhole
      exact ⟨none, a, none, (spend_withAmount_eq_none_iff x).2 hnone, List.mem_singleton_self a,
        (spend_withAmount_eq_none_iff y).2 hnone, rfl⟩
    | some left =>
      obtain ⟨left₁, h₁, h₂⟩ := (spend_parts_iff h).2 hwhole
      exact ⟨some left₁, a.withLimit left₁, some left, h₁, mem_kept_of_covers hy h₂, h₂, rfl⟩

end Allocation

/-! ## Two transfers from a leave -/

namespace Authorization

variable {as : List Allocation} {t t₁ t₂ : Transfer} {rest : Option Authorization}

/-- **Two transfers over one route** are made from one allocation. -/
theorem pay_twice_iff (hone : OnePerRoute as) (hroute : t₂.route = t₁.route) :
    (∃ mid, pay (ofRest as) t₁ = some mid ∧ pay mid t₂ = some rest) ↔
      ∃ a ∈ as, a.route = t₁.route ∧
        ∃ kept, a.KeepsAfter t₁ t₂ kept ∧ rest = ofRest (replaceRoute t₁.route kept as) := by
  constructor
  · rintro ⟨mid, h₁, h₂⟩
    obtain ⟨a, ha, hroute₁, r₁, hspend₁, rfl⟩ := (pay_eq_some_iff_of_onePerRoute hone).1 h₁
    have hone' := onePerRoute_replaceRoute hone hroute₁ r₁
    obtain ⟨b, hb, hroute₂, r₂, hspend₂, rfl⟩ := (pay_eq_some_iff_of_onePerRoute hone').1 h₂
    rcases mem_replaceRoute.1 hb with ⟨hb, -⟩ | ⟨-, hne⟩
    · refine ⟨a, ha, hroute₁, b.kept r₂, ⟨r₁, b, r₂, hspend₁, hb, hspend₂, rfl⟩, ?_⟩
      rw [Allocation.kept_eq_singleton hb, hroute, replaceRoute_twice (hroute₂.trans hroute)]
    · exact absurd (hroute₂.trans hroute) hne
  · rintro ⟨a, ha, hroute₁, kept, ⟨r₁, b, r₂, hspend₁, hb, hspend₂, rfl⟩, rfl⟩
    have hroute₂ : b.route = t₁.route := (Allocation.route_of_mem_kept hb).trans hroute₁
    refine ⟨_, (pay_eq_some_iff_of_onePerRoute hone).2 ⟨a, ha, hroute₁, r₁, hspend₁, rfl⟩, ?_⟩
    have hone' := onePerRoute_replaceRoute hone hroute₁ r₁
    refine (pay_eq_some_iff_of_onePerRoute hone').2 ⟨b, ?_, hroute₂.trans hroute.symm, r₂, hspend₂, ?_⟩
    · exact mem_replaceRoute.2 (.inl ⟨hb, a, ha, hroute₁⟩)
    · rw [Allocation.kept_eq_singleton hb, hroute, replaceRoute_twice hroute₂]

/-- Two transfers over different routes do not meet. -/
theorem pay_swap_of_ne {mid : Option Authorization} (hone : OnePerRoute as) (hne : t₂.route ≠ t₁.route)
    (h₁ : pay (ofRest as) t₁ = some mid) (h₂ : pay mid t₂ = some rest) :
    ∃ mid, pay (ofRest as) t₂ = some mid ∧ pay mid t₁ = some rest := by
  obtain ⟨a, ha, hroute₁, r₁, hspend₁, rfl⟩ := (pay_eq_some_iff_of_onePerRoute hone).1 h₁
  have hone₁ := onePerRoute_replaceRoute hone hroute₁ r₁
  obtain ⟨b, hb, hroute₂, r₂, hspend₂, rfl⟩ := (pay_eq_some_iff_of_onePerRoute hone₁).1 h₂
  have hone₂ := onePerRoute_replaceRoute hone hroute₂ r₂
  -- the allocation for the second transfer was there before the first one, and the other way round
  have hb : b ∈ as := by
    rcases mem_replaceRoute.1 hb with ⟨hb, -⟩ | ⟨hb, -⟩
    · rw [← hroute₁, ← hroute₂, Allocation.route_of_mem_kept hb] at hne
      exact absurd rfl hne
    · exact hb
  have ha₂ : a ∈ replaceRoute t₂.route (b.kept r₂) as := by
    refine mem_replaceRoute.2 (.inr ⟨ha, ?_⟩)
    rw [hroute₁]
    exact hne.symm
  refine ⟨_, (pay_eq_some_iff_of_onePerRoute hone).2 ⟨b, hb, hroute₂, r₂, hspend₂, rfl⟩, ?_⟩
  refine (pay_eq_some_iff_of_onePerRoute hone₂).2 ⟨a, ha₂, hroute₁, r₁, hspend₁, congrArg ofRest ?_⟩
  exact replaceRoute_comm hne.symm (fun c hc => (Allocation.route_of_mem_kept hc).trans hroute₁)
    (fun c hc => (Allocation.route_of_mem_kept hc).trans hroute₂) as

/-- **Two transfers can change places.** -/
theorem pay_swap (hone : OnePerRoute as) (hpos : 0 < t₁.token.amount.toNat)
    (h : ∃ mid, pay (ofRest as) t₁ = some mid ∧ pay mid t₂ = some rest) :
    ∃ mid, pay (ofRest as) t₂ = some mid ∧ pay mid t₁ = some rest := by
  by_cases hroute : t₂.route = t₁.route
  · obtain ⟨a, ha, hroute₁, kept, hkept, rfl⟩ := (pay_twice_iff hone hroute).1 h
    rw [← hroute]
    exact (pay_twice_iff hone hroute.symm).2 ⟨a, ha, hroute₁.trans hroute.symm, kept, hkept.swap hpos, rfl⟩
  · obtain ⟨mid, h₁, h₂⟩ := h
    exact pay_swap_of_ne hone hroute h₁ h₂

theorem bind_pay_comm (hone : OnePerRoute as) (h₁ : 0 < t₁.token.amount.toNat) (h₂ : 0 < t₂.token.amount.toNat) :
    (pay (ofRest as) t₁).bind (pay · t₂) = (pay (ofRest as) t₂).bind (pay · t₁) := by
  apply Option.ext
  intro rest
  rw [Option.bind_eq_some_iff, Option.bind_eq_some_iff]
  exact ⟨pay_swap hone h₁, pay_swap hone h₂⟩

/-! ## All transfers -/

theorem payAll_cons (stored : Option Authorization) (t : Transfer) (ts : List Transfer) :
    payAll stored (t :: ts) = (pay stored t).bind (payAll · ts) := rfl

theorem payAll_pair (stored : Option Authorization) (t u : Transfer) :
    payAll stored [t, u] = (pay stored t).bind (pay · u) := by
  simp only [payAll_cons]
  exact congrArg _ (funext fun mid => Option.bind_fun_some _)

theorem payAll_singleton (stored : Option Authorization) (t : Transfer) : payAll stored [t] = pay stored t := by
  rw [payAll_cons]
  exact Option.bind_fun_some _

theorem payAll_some (auth : Authorization) {ts : List Transfer} (h : ts ≠ []) :
    payAll (some auth) ts = payAll (ofRest auth.allocations) ts := by
  cases ts with
  | nil => exact absurd rfl h
  | cons t ts => rw [payAll_cons, payAll_cons, pay_some]

/-- The order does not matter. Induction on how the one order comes from the other, over any allocations. -/
theorem payAll_ofRest_perm {ts ts' : List Transfer} (hperm : ts.Perm ts') (hone : OnePerRoute as)
    (hpos : ∀ t ∈ ts, 0 < t.token.amount.toNat) : payAll (ofRest as) ts = payAll (ofRest as) ts' := by
  induction hperm generalizing as with
  | nil => rfl
  | @cons t ts ts' hperm ih =>
    rw [payAll_cons, payAll_cons]
    cases hpay : pay (ofRest as) t with
    | none => rfl
    | some mid =>
      obtain ⟨as', hone', rfl⟩ := exists_rest_of_pay hone hpay
      exact ih hone' fun u hu => hpos u (List.mem_cons_of_mem t hu)
  | swap t u ts =>
    have hu : 0 < u.token.amount.toNat := hpos u List.mem_cons_self
    have ht : 0 < t.token.amount.toNat := hpos t (List.mem_cons_of_mem u List.mem_cons_self)
    have hcomm := bind_pay_comm hone hu ht
    simp only [payAll_cons]
    rw [← Option.bind_assoc, ← Option.bind_assoc, hcomm]
  | trans hperm _ ih ih' => exact (ih hone hpos).trans (ih' hone fun u hu => hpos u (hperm.mem_iff.2 hu))

/-- **Transfers can be made in any order.** Where no two allocations are for the same route, transfers that all move
    something are all accepted in the one order if they are in the other, and leave the same. -/
theorem payAll_perm {auth : Authorization} {ts ts' : List Transfer} (hone : OnePerRoute auth.allocations)
    (hpos : ∀ t ∈ ts, 0 < t.token.amount.toNat) (hperm : ts.Perm ts') :
    payAll (some auth) ts = payAll (some auth) ts' := by
  by_cases hnil : ts = []
  · subst hnil
    rw [hperm.nil_eq]
  · have hnil' : ts' ≠ [] := by
      rintro rfl
      exact hnil hperm.eq_nil
    rw [payAll_some auth hnil, payAll_some auth hnil', payAll_ofRest_perm hperm hone hpos]

/-- No bound for one denomination over channel 0, a limit for another one, and a limit over channel 1. -/
def mixedLeave : Authorization where
  allocations :=
    [⟨⟨"transfer", "channel-0"⟩, [⟨"uosmo", ⟨19, by decide⟩⟩, ⟨"uatom", .max⟩], []⟩,
     ⟨⟨"transfer", "channel-1"⟩, [⟨"uosmo", ⟨8, by decide⟩⟩], []⟩]

/-- A transfer over one of the channels. -/
def mixedPayment (channel denom : String) (amount : Amount) : Transfer :=
  .along ⟨"transfer", channel⟩ ⟨denom, amount⟩ "osmo1sender" "stride1receiver" ""

theorem onePerRoute_mixedLeave : OnePerRoute mixedLeave.allocations := by
  unfold OnePerRoute
  decide

/-- One transfer without bound, one that uses up an allocation, and one that lowers a limit. -/
def mixedPayments : List Transfer :=
  [mixedPayment "channel-0" "uatom" ⟨17, by decide⟩, mixedPayment "channel-1" "uosmo" ⟨8, by decide⟩,
   mixedPayment "channel-0" "uosmo" ⟨13, by decide⟩]

theorem mixedPayments_reversed : OnePerRoute mixedLeave.allocations ∧
    (∀ t ∈ mixedPayments, 0 < t.token.amount.toNat) ∧ mixedPayments.Perm mixedPayments.reverse ∧
    payAll (some mixedLeave) mixedPayments = payAll (some mixedLeave) mixedPayments.reverse ∧
    payAll (some mixedLeave) mixedPayments =
      some (some ⟨[⟨⟨"transfer", "channel-0"⟩, [⟨"uatom", .max⟩, ⟨"uosmo", ⟨6, by decide⟩⟩], []⟩]⟩) := by
  have hpos : ∀ t ∈ mixedPayments, 0 < t.token.amount.toNat := by decide
  have hperm : mixedPayments.Perm mixedPayments.reverse := mixedPayments.reverse_perm.symm
  exact ⟨onePerRoute_mixedLeave, hpos, hperm, payAll_perm onePerRoute_mixedLeave hpos hperm, rfl⟩

/-- **A transfer can be made in two parts.** Where no two allocations are for the same route, both parts are accepted
    one after the other if the whole is, and only then, and leave the same. The first part may even be nothing. -/
theorem payAll_parts {auth : Authorization} (hone : OnePerRoute auth.allocations) (t : Transfer) {x y : Amount}
    (hy : 0 < y.toNat) (h : x.toNat + y.toNat < Amount.bound) :
    payAll (some auth) [t.withAmount x, t.withAmount y] =
      payAll (some auth) [t.withAmount ⟨x.toNat + y.toNat, h⟩] := by
  rw [payAll_some auth (List.cons_ne_nil _ _), payAll_some auth (List.cons_ne_nil _ _), payAll_pair, payAll_singleton]
  apply Option.ext
  intro rest
  have hroute : (t.withAmount y).route = (t.withAmount x).route := rfl
  rw [Option.bind_eq_some_iff, pay_twice_iff hone hroute, pay_eq_some_iff_of_onePerRoute hone]
  constructor
  · rintro ⟨a, ha, ha', kept, hkept, hrest⟩
    obtain ⟨r, hwhole, rfl⟩ := (Allocation.keepsAfter_parts_iff hy h).1 hkept
    exact ⟨a, ha, ha', r, hwhole, hrest⟩
  · rintro ⟨a, ha, ha', r, hwhole, hrest⟩
    exact ⟨a, ha, ha', a.kept r, (Allocation.keepsAfter_parts_iff hy h).2 ⟨r, hwhole, rfl⟩, hrest⟩

/-- The whole of the allocation for channel 1 in two parts. -/
theorem mixedPayment_in_parts : OnePerRoute mixedLeave.allocations ∧ 0 < (⟨5, by decide⟩ : Amount).toNat ∧
    3 + 5 < Amount.bound ∧
    payAll (some mixedLeave)
        [mixedPayment "channel-1" "uosmo" ⟨3, by decide⟩, mixedPayment "channel-1" "uosmo" ⟨5, by decide⟩] =
      payAll (some mixedLeave) [mixedPayment "channel-1" "uosmo" ⟨8, by decide⟩] ∧
    payAll (some mixedLeave) [mixedPayment "channel-1" "uosmo" ⟨8, by decide⟩] =
      some (some ⟨[⟨⟨"transfer", "channel-0"⟩, [⟨"uosmo", ⟨19, by decide⟩⟩, ⟨"uatom", .max⟩], []⟩]⟩) := by
  have hpos : 0 < (⟨5, by decide⟩ : Amount).toNat := by decide
  have hbound : 3 + 5 < Amount.bound := by decide
  exact ⟨onePerRoute_mixedLeave, hpos, hbound,
    payAll_parts onePerRoute_mixedLeave (mixedPayment "channel-1" "uosmo" .zero) hpos hbound, rfl⟩

end Authorization

end RemoteStaking
