import RemoteStaking.Proofs.Gateway.Carrying

/-!
# `RemoteStaking.Proofs.Gateway.Stages` — where a call fails, and what it leaves behind

A call has eight stages that can fail, four while the plan is made and four while it is carried out. What is wrong at a
stage is said of the chain before the call, whether or not a stage before it fails too; so several faults may be there
at once, and the first one decides.

## Contents
- **`Stage`**, **`Gateway.Fault`**: the stages in their order, and what is wrong at each, with the error for it.
- **`Gateway.FirstFault`**: nothing is wrong at the stages before.
- **`Gateway.Leaves`**: what is left of the chain after a failure at a stage.
- **No fault at a stage** gives the fact on which the next one rests: `mayName_of_clear`, `drafts_of_clear`,
  `check_of_clear`, `consents_of_clear`, `debit_of_clear`.
- **`serve_of_firstFault`**, **`serve_of_clear`**: the answer and the chain with a fault and without, and together
  **`serve_fails_at_first_fault`**.
-/

namespace RemoteStaking

/-! ## Stages and faults -/

/-- The stages of a call that can fail. -/
inductive Stage where
  /-- Who is named as the sender. -/
  | mandate
  /-- The coin for the token. -/
  | token
  /-- The form of the transfer. -/
  | form
  /-- The consent of the origin. -/
  | consent
  /-- The transfer itself. -/
  | sending
  /-- What becomes of the grant. -/
  | settling
  /-- The log of the transfer. -/
  | transferLog
  /-- The log of the action. -/
  | actionLog
deriving DecidableEq

/-- The place of a stage in the order. -/
def Stage.number : Stage → Nat
  | mandate => 0
  | token => 1
  | form => 2
  | consent => 3
  | sending => 4
  | settling => 5
  | transferLog => 6
  | actionLog => 7

namespace Gateway

/-- **What is wrong at a stage**, and the error for it. All of it is said of the chain `c` before the call. -/
inductive Fault (g : Gateway) (env : Circumstances) (action : Action) (req : Request) (c : Chain) :
    Stage → GatewayError → Prop where
  | mandate (h : ¬ env.frame.MayName req.sender) :
      Fault g env action req c .mandate (.forbiddenSender env.frame.origin req.sender)
  | token {e : GatewayError} (h : CoinFault c env.out (action.denom g.config) req.token e) :
      Fault g env action req c .token e
  | form {t : Transfer} {flaw : TransferFlaw} (ht : g.Drafts env action req c t) (h : t.check = .error flaw) :
      Fault g env action req c .form (.badTransfer flaw)
  | consent {t : Transfer} {e : GatewayError} (ht : g.Drafts env action req c t) (h : ConsentFault env c t e) :
      Fault g env action req c .consent e
  | sending {t : Transfer} {e : ChainError} (ht : g.Drafts env action req c t) (h : Ledger.SendFault c.ledger t e) :
      Fault g env action req c .sending (.transferFailed e)
  | settling {t : Transfer} {d : Decision} {e : ChainError} (ht : g.Drafts env action req c t)
      (hd : Consents env c t d) (h : SettleFault env.out d e) :
      Fault g env action req c .settling (.grantNotUpdated e)
  | transferLog {e : ChainError} (h : LogFault env.out c.journal 0 e) :
      Fault g env action req c .transferLog (.notEmitted transferEvent.name (.notWritten e))
  | actionLog {e : ChainError} (h : LogFault env.out c.journal 1 e) :
      Fault g env action req c .actionLog (.notEmitted action.event.name (.notWritten e))

/-- A fault at a stage, and none at the stages before. -/
def FirstFault (g : Gateway) (env : Circumstances) (action : Action) (req : Request) (c : Chain) (s : Stage)
    (e : GatewayError) : Prop :=
  g.Fault env action req c s e ∧ ∀ s', s'.number < s.number → ∀ e', ¬ g.Fault env action req c s' e'

/-- **What a failure at a stage leaves of the chain.** Up to the consent nothing has changed, and a transfer that is not
    sent is counted. After it is sent nothing is taken back: the chain has the transfer, then also the grant as it is
    after it, then also the first log. -/
def Leaves (g : Gateway) (env : Circumstances) (action : Action) (req : Request) (c : Chain) : Stage → Chain → Prop
  | .mandate, c' | .token, c' | .form, c' | .consent, c' => c' = c
  | .sending, c' => c' = { c with ledger.refused := c.ledger.refused + 1 }
  | .settling, c' => ∃ t n l, g.Drafts env action req c t ∧ c.ledger.send t = (.ok n, l) ∧ c' = { c with ledger := l }
  | .transferLog, c' => ∃ t n l d, g.Drafts env action req c t ∧ c.ledger.send t = (.ok n, l) ∧
      Consents env c t d ∧ c' = { c with ledger := l, grants := d.grantsAfter c.grants }
  | .actionLog, c' => ∃ t n l d, g.Drafts env action req c t ∧ c.ledger.send t = (.ok n, l) ∧ Consents env c t d ∧
      c' = { c with
        ledger := l
        grants := d.grantsAfter c.grants
        journal.logs := c.journal.logs ++ [g.transferLog env t n] }

variable {g : Gateway} {env : Circumstances} {action : Action} {req : Request} {c : Chain} {t : Transfer}
  {d : Decision} {s : Stage} {e : GatewayError}

/-- If there is a fault, there is a first one. -/
theorem exists_firstFault (h : g.Fault env action req c s e) : ∃ s e, g.FirstFault env action req c s e := by
  induction hn : s.number using Nat.strongRecOn generalizing s e with
  | ind n ih =>
    -- either the fault is the first one, or there is one at a stage before
    by_cases hbefore : ∃ s' e', s'.number < s.number ∧ g.Fault env action req c s' e'
    · obtain ⟨s', e', hlt, h'⟩ := hbefore
      exact ih s'.number (hn ▸ hlt) h' rfl
    · exact ⟨s, e, h, fun s' hlt e' h' => hbefore ⟨s', e', hlt, h'⟩⟩

/-! ## No fault at a stage -/

theorem mayName_of_clear (h : ∀ e, ¬ g.Fault env action req c .mandate e) : env.frame.MayName req.sender :=
  Classical.byContradiction fun hname => h _ (.mandate hname)

theorem drafts_of_clear (h : ∀ e, ¬ g.Fault env action req c .token e) :
    env.out.pairLookup = false ∧ ∃ t, g.Drafts env action req c t := by
  rcases coinFault_or_pair c env.out (action.denom g.config) req.token with ⟨e, he⟩ | ⟨ho, pair, hpair, haddress⟩
  · exact absurd (.token he) (h e)
  · exact ⟨ho, g.draft env action req pair.denom, pair, hpair, haddress, rfl⟩

theorem check_of_clear (ht : g.Drafts env action req c t) (h : ∀ e, ¬ g.Fault env action req c .form e) :
    t.check = .ok () := by
  cases hform : t.check with
  | error flaw => exact absurd (.form ht hform) (h _)
  | ok _ => rfl

theorem consents_of_clear (ht : g.Drafts env action req c t) (h : ∀ e, ¬ g.Fault env action req c .consent e) :
    (env.frame.caller = env.frame.origin ∨ env.out.grantLookup = false) ∧ ∃ d, Consents env c t d := by
  rcases consentFault_or_consents env c t with ⟨e, he⟩ | hconsent
  · exact absurd (.consent ht he) (h e)
  · exact hconsent

theorem debit_of_clear (ht : g.Drafts env action req c t) (h : ∀ e, ¬ g.Fault env action req c .sending e) :
    ∃ left, c.ledger.debit t = .ok left := by
  rcases Ledger.sendFault_or_funds c.ledger t with ⟨e, he⟩ | ⟨hopen, hfunds⟩
  · exact absurd (.sending ht he) (h _)
  · exact Ledger.debit_of_funds hopen hfunds

/-! ## Serving -/

theorem serve_of_plan_error (h : g.plan env action req c = .error e) :
    g.serve env action req c = (.error e, c) := by
  unfold serve
  rw [h]

theorem serve_of_plan {p : Plan} (h : g.plan env action req c = .ok p) :
    g.serve env action req c = g.carryOut env action req p c := by
  unfold serve
  rw [h]

/-- With no fault at the first four stages, a plan is made for the draft on which the origin's consent was given. -/
theorem plan_of_clear (ht : g.Drafts env action req c t) (hd : Consents env c t d)
    (h : ∀ s, s.number < Stage.sending.number → ∀ e, ¬ g.Fault env action req c s e) :
    g.plan env action req c = .ok ⟨env.frame.origin, t, d⟩ :=
  plan_eq_ok_iff.2 ⟨mayName_of_clear (h .mandate (by decide)), (drafts_of_clear (h .token (by decide))).1, ht,
    check_of_clear ht (h .form (by decide)), (consents_of_clear ht (h .consent (by decide))).1, hd, rfl⟩

/-- With no fault up to the sending, the transfer is sent and the call goes on from there. -/
theorem serve_of_sent (ht : g.Drafts env action req c t) (hd : Consents env c t d)
    (h : ∀ s, s.number < Stage.settling.number → ∀ e, ¬ g.Fault env action req c s e) :
    ∃ left, c.ledger.debit t = .ok left ∧ g.serve env action req c =
      g.conclude env action req ⟨env.frame.origin, t, d⟩ (c.ledger.nextSequence t.route)
        { c with ledger := c.ledger.record t left } := by
  obtain ⟨left, hs⟩ := debit_of_clear ht (h .sending (by decide))
  have hplan := plan_of_clear ht hd fun s hlt => h s (Nat.lt_trans hlt (by decide))
  refine ⟨left, hs, ?_⟩
  rw [serve_of_plan hplan]
  exact carryOut_of_debit hs

/-- With no fault up to the grant, there are a draft and the consent to it, the transfer is sent and the decision is
    settled; the call concludes from there. -/
theorem serve_of_settled (h : ∀ s, s.number < Stage.transferLog.number → ∀ e, ¬ g.Fault env action req c s e) :
    ∃ t d left, g.Drafts env action req c t ∧ Consents env c t d ∧ c.ledger.debit t = .ok left ∧
      d.settle env.out { c with ledger := c.ledger.record t left } =
        .ok { c with ledger := c.ledger.record t left, grants := d.grantsAfter c.grants } ∧
      g.serve env action req c =
        g.conclude env action req ⟨env.frame.origin, t, d⟩ (c.ledger.nextSequence t.route)
          { c with ledger := c.ledger.record t left } := by
  obtain ⟨-, t, ht⟩ := drafts_of_clear (h .token (by decide))
  obtain ⟨-, d, hd⟩ := consents_of_clear ht (h .consent (by decide))
  obtain ⟨left, hs, hserve⟩ := serve_of_sent ht hd fun s hlt => h s (Nat.lt_trans hlt (by decide))
  have hsettle : ∀ e, ¬ SettleFault env.out d e := fun e he => h .settling (by decide) _ (.settling ht hd he)
  exact ⟨t, d, left, ht, hd, hs, settle_of_consents hd hsettle, hserve⟩

/-- **The first fault decides.** One case for each stage: the faults before it are out, so the call gets as far as this
    stage, and what the stage does with its fault is known. -/
theorem serve_of_firstFault (h : g.FirstFault env action req c s e) :
    (g.serve env action req c).1 = .error e ∧ g.Leaves env action req c s (g.serve env action req c).2 := by
  obtain ⟨hfault, hclear⟩ := h
  cases hfault with
  -- no plan is made
  | mandate hname =>
    rw [serve_of_plan_error (plan_of_forbidden hname)]
    exact ⟨rfl, rfl⟩
  | token he =>
    have hname := mayName_of_clear (hclear .mandate (by decide))
    rw [serve_of_plan_error (plan_of_coinFault hname he)]
    exact ⟨rfl, rfl⟩
  | form ht hform =>
    have hname := mayName_of_clear (hclear .mandate (by decide))
    have ho := (drafts_of_clear (hclear .token (by decide))).1
    rw [serve_of_plan_error (plan_of_bad_form hname ho ht hform)]
    exact ⟨rfl, rfl⟩
  | consent ht he =>
    have hname := mayName_of_clear (hclear .mandate (by decide))
    have ho := (drafts_of_clear (hclear .token (by decide))).1
    have hform := check_of_clear ht (hclear .form (by decide))
    rw [serve_of_plan_error (plan_of_consentFault hname ho ht hform he)]
    exact ⟨rfl, rfl⟩
  -- the plan is made, for this very draft
  | sending ht he =>
    obtain ⟨-, d, hd⟩ := consents_of_clear ht (hclear .consent (by decide))
    rw [serve_of_plan (plan_of_clear ht hd hclear), carryOut_of_sendFault he]
    exact ⟨rfl, rfl⟩
  | settling ht hd he =>
    obtain ⟨left, hs, hserve⟩ := serve_of_sent ht hd hclear
    rw [hserve, conclude_of_settleFault he]
    exact ⟨rfl, _, _, _, ht, Ledger.send_of_debit hs, rfl⟩
  | transferLog he =>
    obtain ⟨t, d, left, ht, hd, hs, hsettle, hserve⟩ := serve_of_settled hclear
    rw [hserve, conclude_of_transferLogFault hsettle he]
    exact ⟨rfl, _, _, _, _, ht, Ledger.send_of_debit hs, hd, rfl⟩
  | actionLog he =>
    obtain ⟨t, d, left, ht, hd, hs, hsettle, hserve⟩ :=
      serve_of_settled fun s hlt => hclear s (Nat.lt_trans hlt (by decide))
    have hlog : ∀ e, ¬ LogFault env.out c.journal 0 e := fun e he' =>
      hclear .transferLog (by decide) _ (.transferLog he')
    rw [hserve, conclude_of_actionLogFault hsettle hlog he]
    exact ⟨rfl, _, _, _, _, ht, Ledger.send_of_debit hs, hd, rfl⟩

/-- With no fault at all the call is answered, and everything is done. -/
theorem serve_of_clear (h : ∀ s e, ¬ g.Fault env action req c s e) :
    ∃ t d left, g.Drafts env action req c t ∧ Consents env c t d ∧ c.ledger.debit t = .ok left ∧
      g.serve env action req c =
        (.ok (receipt action req ⟨env.frame.origin, t, d⟩ (c.ledger.nextSequence t.route)),
          { c with
            ledger := c.ledger.record t left
            grants := d.grantsAfter c.grants
            journal.logs := c.journal.logs ++
              [g.transferLog env t (c.ledger.nextSequence t.route), g.actionLog env action req] }) := by
  obtain ⟨t, d, left, ht, hd, hs, hsettle, hserve⟩ := serve_of_settled fun s _ => h s
  have hlog : ∀ e, ¬ LogFault env.out c.journal 0 e := fun e he => h .transferLog _ (.transferLog he)
  have hlog' : ∀ e, ¬ LogFault env.out c.journal 1 e := fun e he => h .actionLog _ (.actionLog he)
  refine ⟨t, d, left, ht, hd, hs, ?_⟩
  rw [hserve, conclude_of_writable hsettle hlog hlog']

/-- **Where a call fails and what it leaves behind.** An error is that of the first fault, and a first fault is always
    reported; what is left of the chain is what failing at its stage leaves. The grant is not updated only if a service
    is out: a grant that was looked at is there to be replaced or removed. -/
theorem serve_fails_at_first_fault (g : Gateway) (env : Circumstances) (action : Action) (req : Request) (c : Chain) :
    (∀ e, (g.serve env action req c).1 = .error e ↔ ∃ s, g.FirstFault env action req c s e) ∧
    (∀ s e, g.FirstFault env action req c s e → g.Leaves env action req c s (g.serve env action req c).2) ∧
    (∀ cause, (g.serve env action req c).1 = .error (.grantNotUpdated cause) →
      (cause = .outage .grantSave ∧ env.out.grantSave = true) ∨
        (cause = .outage .grantRemoval ∧ env.out.grantRemoval = true)) := by
  have herror : ∀ e, (g.serve env action req c).1 = .error e ↔ ∃ s, g.FirstFault env action req c s e := by
    intro e
    constructor
    · intro herr
      by_cases hfault : ∃ s e, g.Fault env action req c s e
      · obtain ⟨s, e', h⟩ := hfault
        obtain ⟨s, e', h⟩ := exists_firstFault h
        -- the first fault has its own error reported, so that is the one at hand
        have hsame := (serve_of_firstFault h).1
        rw [herr] at hsame
        cases hsame
        exact ⟨s, h⟩
      · obtain ⟨t, d, left, -, -, -, hserve⟩ := serve_of_clear fun s e h => hfault ⟨s, e, h⟩
        rw [hserve] at herr
        cases herr
    · rintro ⟨s, h⟩
      exact (serve_of_firstFault h).1
  refine ⟨herror, fun s e h => (serve_of_firstFault h).2, ?_⟩
  intro cause herr
  -- only the stage that settles the grant has such an error
  obtain ⟨s, hfault, -⟩ := (herror _).1 herr
  cases hfault with
  | token h => cases h
  | consent _ h => cases h
  | settling _ _ h =>
    cases h with
    | save ho => exact .inl ⟨rfl, ho⟩
    | removal ho => exact .inr ⟨rfl, ho⟩

end Gateway

end RemoteStaking
