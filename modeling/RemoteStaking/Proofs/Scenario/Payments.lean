import RemoteStaking.Proofs.Authorization.Ordering
import RemoteStaking.Proofs.Scenario.Runs

/-!
# `RemoteStaking.Proofs.Scenario.Payments` — what a chain stores of a leave

On a chain a transfer is paid from a grant in two steps: a decision is made, with which nothing is written yet, and the
decision is settled. Over any number of transfers, all of these steps succeed where `Authorization.payAll` accepts all
of the transfers, and only there, and what is then stored of the leave is what `payAll` says.

## Contents
- **`Chain.leave`**: the leave that is stored. **`Chain.LiveIn`**: it has not ended.
- **One transfer.** `pay_eq_some_iff_consents`: when the granter consents to it, and what settling that leaves.
  `steps_of_pay`, `not_succeeds_of_refused`: what comes of the two steps.
- **All transfers.** `payAll_eq_some_iff_steps`.
-/

namespace RemoteStaking

/-- The leave that is stored for a grantee. -/
def Chain.leave (c : Chain) (grantee granter : Address) : Option Authorization :=
  (c.grants.get? (.transfer grantee granter)).map (·.authorization)

/-- The grant has not ended in the block, if it is there. -/
def Chain.LiveIn (c : Chain) (block : Block) (grantee granter : Address) : Prop :=
  ∀ grant, c.grants.get? (.transfer grantee granter) = some grant → grant.expiry.reached block = false

/-! ## One transfer -/

section Consent

variable {block : Block} {grantee granter : Address} {c : Chain} {t : Transfer} {d : Decision}
  {rest : Option Authorization}

/-- What is stored of the leave is what the verdict leaves. -/
theorem leave_of_verdict {grant : Grant} (hgrant : c.grants.get? (.transfer grantee granter) = some grant)
    (verdict : Verdict) :
    ({ c with grants := (Decision.granted grantee granter verdict grant.expiry).grantsAfter c.grants } : Chain).leave
      grantee granter = verdict.remaining grant.authorization := by
  unfold Chain.leave
  rw [get?_grantsAfter hgrant, Option.map_map]
  exact Option.map_id'

/-- **To consent is to pay.** The granter consents to the transfers that its leave pays, and settling the decision leaves
    the rest. -/
theorem pay_eq_some_iff_consents (hne : grantee ≠ granter) (hlive : c.LiveIn block grantee granter) :
    Authorization.pay (c.leave grantee granter) t = some rest ↔
      ∃ d, Consents ⟨block, ⟨granter, grantee⟩, .none⟩ c t d ∧
        ({ c with grants := d.grantsAfter c.grants } : Chain).leave grantee granter = rest := by
  constructor
  · intro h
    unfold Chain.leave at h
    cases hgrant : c.grants.get? (.transfer grantee granter) with
    | none =>
      rw [hgrant] at h
      cases h
    | some grant =>
      rw [hgrant, Option.map_some, Authorization.pay] at h
      cases haccept : grant.authorization.accept t with
      | error e =>
        rw [haccept] at h
        cases h
      | ok verdict =>
        rw [haccept] at h
        cases h
        exact ⟨_, .granted hne hgrant (hlive grant hgrant) haccept, leave_of_verdict hgrant verdict⟩
  · rintro ⟨d, hd, rfl⟩
    cases hd with
    | direct heq => exact absurd heq hne
    | @granted grant verdict _ hgrant _ haccept =>
      have hleave : c.leave grantee granter = some grant.authorization := congrArg (Option.map _) hgrant
      rw [hleave, Authorization.pay, haccept]
      exact congrArg some (leave_of_verdict hgrant verdict).symm

/-- What is left of a grant ends when the grant did. -/
theorem liveIn_of_consents (hlive : c.LiveIn block grantee granter)
    (hd : Consents ⟨block, ⟨granter, grantee⟩, .none⟩ c t d) :
    ({ c with grants := d.grantsAfter c.grants } : Chain).LiveIn block grantee granter := by
  cases hd with
  | direct heq => exact hlive
  | @granted grant verdict _ hgrant hreached _ =>
    intro rest hrest
    have hstored : ((Decision.granted grantee granter verdict grant.expiry).grantsAfter c.grants).get?
        (.transfer grantee granter) = some rest := hrest
    rw [get?_grantsAfter hgrant] at hstored
    obtain ⟨_, -, rfl⟩ := Option.map_eq_some_iff.1 hstored
    exact hreached

theorem ofCall_of_grantee (hne : grantee ≠ granter) :
    Mandate.ofCall ⟨granter, grantee⟩ granter = .delegated granter grantee := by
  rw [ofCall_of_mayName (.inr rfl)]
  exact if_neg hne

end Consent

namespace Scenario

variable {s : Scenario} {block : Block} {grantee granter : Address} {t : Transfer} {rest : Option Authorization}

/-- The steps by which a transfer is paid from a grant: a decision, which is then settled. -/
def paymentSteps (block : Block) (grantee granter : Address) (t : Transfer) : List Step :=
  [.authorize block (.delegated granter grantee) t, .settle]

/-- Nothing is out, and the grant has not ended. -/
structure Steady (s : Scenario) (block : Block) (grantee granter : Address) : Prop where
  inOrder : s.out = .none
  live : s.chain.LiveIn block grantee granter

/-- All of the steps succeed. -/
def Succeeds (s : Scenario) (steps : List Step) : Prop :=
  ∀ r ∈ s.play steps, ∃ o, r.1 = .ok o

theorem succeeds_nil (s : Scenario) : s.Succeeds [] :=
  fun _ h => absurd h List.not_mem_nil

theorem succeeds_cons (s : Scenario) (a : Step) (as : List Step) :
    s.Succeeds (a :: as) ↔ (∃ o, (s.step a).1 = .ok o) ∧ (s.step a).2.Succeeds as :=
  List.forall_mem_cons

theorem succeeds_append (s : Scenario) (as bs : List Step) :
    s.Succeeds (as ++ bs) ↔ s.Succeeds as ∧ (s.after as).Succeeds bs := by
  induction as generalizing s with
  | nil => exact (and_iff_right s.succeeds_nil).symm
  | cons a as ih =>
    rw [List.cons_append, succeeds_cons, succeeds_cons, ih, and_assoc]
    rfl

/-- **A payment.** Both steps succeed, the rest of the leave is stored, and the next transfer can be paid. -/
theorem steps_of_pay (hne : grantee ≠ granter) (hs : s.Steady block grantee granter)
    (h : Authorization.pay (s.chain.leave grantee granter) t = some rest) :
    s.Succeeds (paymentSteps block grantee granter t) ∧
    (s.after (paymentSteps block grantee granter t)).Steady block grantee granter ∧
    (s.after (paymentSteps block grantee granter t)).chain.leave grantee granter = rest := by
  obtain ⟨d, hd, hrest⟩ := (pay_eq_some_iff_consents hne hs.live).1 h
  have hauthorize : s.step (.authorize block (.delegated granter grantee) t) =
      (.ok (.decision d), { s with decision := d }) := by
    have hdecision : (Mandate.ofCall ⟨granter, grantee⟩ granter).authorize .none block t s.chain = .ok d :=
      authorize_of_consents (.inr rfl) (.inr rfl) hd
    rw [ofCall_of_grantee hne] at hdecision
    simp only [step, hs.inOrder, hdecision]
  have hsettle : ({ s with decision := d } : Scenario).step .settle =
      (.ok .done, { s with decision := d, chain.grants := d.grantsAfter s.chain.grants }) := by
    have hchain : d.settle .none s.chain = .ok { s.chain with grants := d.grantsAfter s.chain.grants } :=
      settle_of_consents hd fun _ => not_settleFault_none
    simp only [step, hs.inOrder, hchain]
  have hafter : s.after (paymentSteps block grantee granter t) =
      { s with decision := d, chain.grants := d.grantsAfter s.chain.grants } := by
    simp only [paymentSteps, after, hauthorize, hsettle]
  rw [hafter]
  refine ⟨?_, ⟨hs.inOrder, liveIn_of_consents hs.live hd⟩, hrest⟩
  rw [paymentSteps, succeeds_cons, hauthorize, succeeds_cons, hsettle]
  exact ⟨⟨_, rfl⟩, ⟨_, rfl⟩, succeeds_nil _⟩

/-- **A refusal.** What the leave does not pay is refused when the decision is made. -/
theorem not_succeeds_of_refused (hne : grantee ≠ granter) (hs : s.Steady block grantee granter)
    (h : Authorization.pay (s.chain.leave grantee granter) t = none) :
    ¬ s.Succeeds (paymentSteps block grantee granter t) := by
  rcases consentFault_or_consents ⟨block, ⟨granter, grantee⟩, .none⟩ s.chain t with ⟨e, hfault⟩ | ⟨-, d, hd⟩
  · have hdecision : (Mandate.ofCall ⟨granter, grantee⟩ granter).authorize .none block t s.chain = .error e :=
      authorize_of_fault (.inr rfl) hfault
    rw [ofCall_of_grantee hne] at hdecision
    rw [paymentSteps, succeeds_cons]
    rintro ⟨⟨o, ho⟩, -⟩
    simp only [step, hs.inOrder, hdecision, reduceCtorEq] at ho
  · rw [(pay_eq_some_iff_consents hne hs.live).2 ⟨d, hd, rfl⟩] at h
    cases h

/-! ## All transfers -/

/-- **A run of payments.** All the steps succeed if the leave that is stored pays all the transfers, one after the other,
    and only then; what is stored in the end is the rest. Induction on the transfers, over any steady scenario. -/
theorem payAll_eq_some_iff_steps (hne : grantee ≠ granter) (hs : s.Steady block grantee granter) (ts : List Transfer) :
    Authorization.payAll (s.chain.leave grantee granter) ts = some rest ↔
      s.Succeeds (ts.flatMap (paymentSteps block grantee granter)) ∧
      (s.after (ts.flatMap (paymentSteps block grantee granter))).chain.leave grantee granter = rest := by
  induction ts generalizing s with
  | nil => exact ⟨fun h => ⟨s.succeeds_nil, Option.some.inj h⟩, fun h => congrArg some h.2⟩
  | cons t ts ih =>
    rw [List.flatMap_cons, succeeds_append, after_append, Authorization.payAll_cons]
    cases hpay : Authorization.pay (s.chain.leave grantee granter) t with
    | none => exact iff_of_false nofun fun h => not_succeeds_of_refused hne hs hpay h.1.1
    | some mid =>
      obtain ⟨hsteps, hsteady, hleave⟩ := steps_of_pay hne hs hpay
      rw [Option.bind_some, ← hleave, ih hsteady, and_iff_right hsteps]

end Scenario

end RemoteStaking
