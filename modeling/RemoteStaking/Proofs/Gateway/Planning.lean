import RemoteStaking.Gateway.Plan

/-!
# `RemoteStaking.Proofs.Gateway.Planning` — when a plan is made, and what is in it

A plan rests on four things: who is named as the sender, the registered token, the form of the transfer, and the consent
of the origin. Each is said here of the chain as it is before the call, without the order in which it is looked at.

## Contents
- **What a plan rests on.** `CallFrame.MayName`, `Gateway.Drafts`, `Consents`, with what follows at once from a draft
  (`fields_of_drafts`) and what consent comes down to (`exists_consents_iff`).
- **What is in its way.** `CoinFault`, `ConsentFault`. Either one of them holds or what the plan rests on does
  (`coinFault_or_pair`, `consentFault_or_consents`).
- **`plan_eq_ok_iff`**: when a plan is made. **Otherwise** `plan_of_forbidden`, `plan_of_coinFault`,
  `plan_of_bad_form`, `plan_of_consentFault`.
-/

namespace RemoteStaking

/-! ## What a plan rests on -/

/-- Whom a call may name as the sender: its caller, or the origin. -/
def CallFrame.MayName (frame : CallFrame) (declared : Address) : Prop :=
  declared = frame.caller ∨ declared = frame.origin

/-- The transfer that a request comes down to if the token is registered under a denomination. It is in the name of the
    origin, whoever is declared. -/
def Gateway.draft (g : Gateway) (env : Circumstances) (action : Action) (req : Request) (denom : String) : Transfer :=
  g.transfer action env.frame.origin ⟨denom, req.amount⟩ req.receiver

/-- **The transfer that a request comes down to.** The contract registered for the denomination of the action is the
    token of the request. -/
def Gateway.Drafts (g : Gateway) (env : Circumstances) (action : Action) (req : Request) (c : Chain) (t : Transfer) :
    Prop :=
  ∃ pair, c.pairs.get? (action.denom g.config) = some pair ∧ pair.address = .ok req.token ∧
    t = g.draft env action req pair.denom

/-- **The origin consents to a transfer**, with a decision about its grant: it called itself, or the caller has a grant
    of it that has not ended and accepts the transfer. -/
inductive Consents (env : Circumstances) (c : Chain) (t : Transfer) : Decision → Prop where
  | direct (h : env.frame.caller = env.frame.origin) : Consents env c t .notNeeded
  | granted {grant : Grant} {verdict : Verdict} (h : env.frame.caller ≠ env.frame.origin)
      (hgrant : c.grants.get? (.transfer env.frame.caller env.frame.origin) = some grant)
      (hlive : grant.expiry.reached env.block = false) (haccept : grant.authorization.accept t = .ok verdict) :
      Consents env c t (.granted env.frame.caller env.frame.origin verdict grant.expiry)

/-- A draft goes over the route of the gateway, in the name of the origin, with the amount of the request. -/
theorem fields_of_drafts {g : Gateway} {env : Circumstances} {action : Action} {req : Request} {c : Chain}
    {t : Transfer} (h : g.Drafts env action req c t) : t.route = g.config.route ∧
      t.sender = env.frame.origin.toBech32 g.config.hrp ∧ t.token.amount = req.amount := by
  obtain ⟨pair, -, -, rfl⟩ := h
  exact ⟨rfl, rfl, rfl⟩

theorem exists_consents_iff {env : Circumstances} {c : Chain} {t : Transfer} : (∃ d, Consents env c t d) ↔
    env.frame.caller = env.frame.origin ∨
      ∃ grant verdict, c.grants.get? (.transfer env.frame.caller env.frame.origin) = some grant ∧
        grant.expiry.reached env.block = false ∧ grant.authorization.accept t = .ok verdict := by
  constructor
  · rintro ⟨d, hd⟩
    cases hd with
    | direct hcaller => exact .inl hcaller
    | granted _ hgrant hlive haccept => exact .inr ⟨_, _, hgrant, hlive, haccept⟩
  · intro h
    by_cases hcaller : env.frame.caller = env.frame.origin
    · exact ⟨_, .direct hcaller⟩
    · obtain ⟨grant, verdict, hgrant, hlive, haccept⟩ := h.resolve_left hcaller
      exact ⟨_, .granted hcaller hgrant hlive haccept⟩

/-! ## Mandates -/

section Mandates

variable {frame : CallFrame} {declared : Address}

theorem ofCall_of_forbidden (h : ¬ frame.MayName declared) :
    Mandate.ofCall frame declared = .forbidden frame.origin declared := by
  unfold Mandate.ofCall
  rw [if_pos]
  constructor
  · exact fun heq => h (.inl heq.symm)
  · exact fun heq => h (.inr heq)

theorem ofCall_of_mayName (h : frame.MayName declared) : Mandate.ofCall frame declared =
    if frame.caller = frame.origin then .direct frame.origin else .delegated frame.origin frame.caller := by
  unfold Mandate.ofCall
  rw [if_neg]
  rintro ⟨hcaller, horigin⟩
  rcases h with heq | heq
  · exact hcaller heq.symm
  · exact horigin heq

theorem sender_of_mayName (h : frame.MayName declared) :
    (Mandate.ofCall frame declared).sender = .ok frame.origin := by
  rw [ofCall_of_mayName h]
  split <;> rfl

end Mandates

/-! ## Coins -/

/-- Why there is no coin for a token: the first thing in the way. -/
inductive CoinFault (c : Chain) (out : Outage) (denom : String) (token : Address) : GatewayError → Prop where
  | lookupOut (ho : out.pairLookup = true) : CoinFault c out denom token (.chain (.outage .pairLookup))
  | noPair (ho : out.pairLookup = false) (hpair : c.pairs.get? denom = none) :
      CoinFault c out denom token (.noTokenPair denom)
  | badContract {pair : TokenPair} {cause : AddressError} (ho : out.pairLookup = false)
      (hpair : c.pairs.get? denom = some pair) (haddress : pair.address = .error cause) :
      CoinFault c out denom token (.chain (.badContract cause))
  | wrongToken {pair : TokenPair} {expected : Address} (ho : out.pairLookup = false)
      (hpair : c.pairs.get? denom = some pair) (haddress : pair.address = .ok expected) (hne : token ≠ expected) :
      CoinFault c out denom token (.wrongToken token expected)

section Coins

variable {c : Chain} {out : Outage} {denom : String} {token : Address} {amount : Amount} {pair : TokenPair}

theorem pair?_of_in (ho : out.pairLookup = false) : c.pair? out denom = .ok (c.pairs.get? denom) := by
  unfold Chain.pair?
  rw [ho]
  rfl

theorem coin_of_pair (ho : out.pairLookup = false) (hpair : c.pairs.get? denom = some pair)
    (haddress : pair.address = .ok token) : Gateway.coin c out denom token amount = .ok ⟨pair.denom, amount⟩ := by
  unfold Gateway.coin
  rw [pair?_of_in ho, hpair]
  simp only [haddress]
  exact if_pos trivial

theorem coin_of_fault {e : GatewayError} (h : CoinFault c out denom token e) :
    Gateway.coin c out denom token amount = .error e := by
  unfold Gateway.coin
  cases h with
  | lookupOut ho =>
    unfold Chain.pair?
    rw [ho]
    rfl
  | noPair ho hpair => rw [pair?_of_in ho, hpair]
  | badContract ho hpair haddress =>
    rw [pair?_of_in ho, hpair]
    simp only [haddress]
  | wrongToken ho hpair haddress hne =>
    rw [pair?_of_in ho, hpair]
    simp only [haddress]
    exact if_neg hne

theorem coinFault_or_pair (c : Chain) (out : Outage) (denom : String) (token : Address) :
    (∃ e, CoinFault c out denom token e) ∨
      (out.pairLookup = false ∧ ∃ pair, c.pairs.get? denom = some pair ∧ pair.address = .ok token) := by
  cases ho : out.pairLookup with
  | true => exact .inl ⟨_, .lookupOut ho⟩
  | false =>
    cases hpair : c.pairs.get? denom with
    | none => exact .inl ⟨_, .noPair ho hpair⟩
    | some pair =>
      cases haddress : pair.address with
      | error cause => exact .inl ⟨_, .badContract ho hpair haddress⟩
      | ok expected =>
        by_cases heq : token = expected
        · exact .inr ⟨rfl, pair, rfl, heq ▸ haddress⟩
        · exact .inl ⟨_, .wrongToken ho hpair haddress heq⟩

end Coins

/-! ## Consent -/

/-- Why a caller that is not the origin has no consent: the first thing in the way. -/
inductive ConsentFault (env : Circumstances) (c : Chain) (t : Transfer) : GatewayError → Prop where
  | lookupOut (h : env.frame.caller ≠ env.frame.origin) (ho : env.out.grantLookup = true) :
      ConsentFault env c t (.chain (.outage .grantLookup))
  | noGrant (h : env.frame.caller ≠ env.frame.origin) (ho : env.out.grantLookup = false)
      (hgrant : c.grants.get? (.transfer env.frame.caller env.frame.origin) = none) :
      ConsentFault env c t (.unauthorized (.noGrant env.frame.caller env.frame.origin))
  | expired {grant : Grant} (h : env.frame.caller ≠ env.frame.origin) (ho : env.out.grantLookup = false)
      (hgrant : c.grants.get? (.transfer env.frame.caller env.frame.origin) = some grant)
      (hended : grant.expiry.reached env.block = true) :
      ConsentFault env c t (.unauthorized (.expired env.frame.caller env.frame.origin grant.expiry))
  | refused {grant : Grant} {cause : Refusal} (h : env.frame.caller ≠ env.frame.origin)
      (ho : env.out.grantLookup = false)
      (hgrant : c.grants.get? (.transfer env.frame.caller env.frame.origin) = some grant)
      (hlive : grant.expiry.reached env.block = false) (hrefuse : grant.authorization.accept t = .error cause) :
      ConsentFault env c t (.unauthorized (.refused cause))

section Consent

variable {env : Circumstances} {declared : Address} {c : Chain} {t : Transfer} {d : Decision}

theorem grant?_of_in {grantee granter : Address} (ho : env.out.grantLookup = false) :
    c.grant? env.out grantee granter = .ok (c.grants.get? (.transfer grantee granter)) := by
  unfold Chain.grant?
  rw [ho]
  rfl

theorem authorize_of_consents (hname : env.frame.MayName declared)
    (ho : env.frame.caller = env.frame.origin ∨ env.out.grantLookup = false) (h : Consents env c t d) :
    (Mandate.ofCall env.frame declared).authorize env.out env.block t c = .ok d := by
  rw [ofCall_of_mayName hname]
  cases h with
  | direct heq =>
    rw [if_pos heq]
    rfl
  | granted hne hgrant hlive haccept =>
    rw [if_neg hne]
    unfold Mandate.authorize
    simp only [grant?_of_in (ho.resolve_left hne), hgrant, hlive, haccept]
    rfl

theorem authorize_of_fault {e : GatewayError} (hname : env.frame.MayName declared) (h : ConsentFault env c t e) :
    (Mandate.ofCall env.frame declared).authorize env.out env.block t c = .error e := by
  have hne : env.frame.caller ≠ env.frame.origin := by cases h <;> assumption
  rw [ofCall_of_mayName hname, if_neg hne]
  unfold Mandate.authorize
  cases h with
  | lookupOut _ ho =>
    unfold Chain.grant?
    simp only [ho]
    rfl
  | noGrant _ ho hgrant => simp only [grant?_of_in ho, hgrant]
  | expired _ ho hgrant hended =>
    simp only [grant?_of_in ho, hgrant]
    exact if_pos hended
  | refused _ ho hgrant hlive hrefuse =>
    simp only [grant?_of_in ho, hgrant, hlive, hrefuse]
    rfl

theorem consentFault_or_consents (env : Circumstances) (c : Chain) (t : Transfer) :
    (∃ e, ConsentFault env c t e) ∨
      ((env.frame.caller = env.frame.origin ∨ env.out.grantLookup = false) ∧ ∃ d, Consents env c t d) := by
  by_cases h : env.frame.caller = env.frame.origin
  · exact .inr ⟨.inl h, _, .direct h⟩
  · cases ho : env.out.grantLookup with
    | true => exact .inl ⟨_, .lookupOut h ho⟩
    | false =>
      cases hgrant : c.grants.get? (.transfer env.frame.caller env.frame.origin) with
      | none => exact .inl ⟨_, .noGrant h ho hgrant⟩
      | some grant =>
        cases hlive : grant.expiry.reached env.block with
        | true => exact .inl ⟨_, .expired h ho hgrant hlive⟩
        | false =>
          cases haccept : grant.authorization.accept t with
          | error cause => exact .inl ⟨_, .refused h ho hgrant hlive haccept⟩
          | ok verdict => exact .inr ⟨.inr rfl, _, .granted h hgrant hlive haccept⟩

end Consent

/-! ## The whole plan -/

section Plans

variable {g : Gateway} {env : Circumstances} {action : Action} {req : Request} {c : Chain} {t : Transfer} {p : Plan}

theorem plan_of_forbidden (h : ¬ env.frame.MayName req.sender) :
    g.plan env action req c = .error (.forbiddenSender env.frame.origin req.sender) := by
  unfold Gateway.plan
  rw [ofCall_of_forbidden h]
  rfl

theorem plan_of_coinFault {e : GatewayError} (hname : env.frame.MayName req.sender)
    (h : CoinFault c env.out (action.denom g.config) req.token e) : g.plan env action req c = .error e := by
  unfold Gateway.plan
  simp only [sender_of_mayName hname, coin_of_fault h]
  rfl

/-- Once there is a draft, its form and the consent to it are left to look at. -/
theorem plan_of_draft (hname : env.frame.MayName req.sender) (ho : env.out.pairLookup = false)
    (ht : g.Drafts env action req c t) : g.plan env action req c = (do
      t.check.mapError .badTransfer
      let d ← (Mandate.ofCall env.frame req.sender).authorize env.out env.block t c
      return ⟨env.frame.origin, t, d⟩) := by
  obtain ⟨pair, hpair, haddress, rfl⟩ := ht
  unfold Gateway.plan
  simp only [sender_of_mayName hname, coin_of_pair ho hpair haddress]
  rfl

theorem plan_of_bad_form {flaw : TransferFlaw} (hname : env.frame.MayName req.sender)
    (ho : env.out.pairLookup = false) (ht : g.Drafts env action req c t) (h : t.check = .error flaw) :
    g.plan env action req c = .error (.badTransfer flaw) := by
  rw [plan_of_draft hname ho ht, h]
  rfl

theorem plan_of_consentFault {e : GatewayError} (hname : env.frame.MayName req.sender)
    (ho : env.out.pairLookup = false) (ht : g.Drafts env action req c t) (hform : t.check = .ok ())
    (h : ConsentFault env c t e) : g.plan env action req c = .error e := by
  rw [plan_of_draft hname ho ht, hform, authorize_of_fault hname h]
  rfl

/-- **When a plan is made.** Every part allows it and no service that is asked is out; the plan is then for the tokens
    of the origin. -/
theorem plan_eq_ok_iff : g.plan env action req c = .ok p ↔
    env.frame.MayName req.sender ∧ env.out.pairLookup = false ∧ g.Drafts env action req c p.transfer ∧
      p.transfer.check = .ok () ∧ (env.frame.caller = env.frame.origin ∨ env.out.grantLookup = false) ∧
      Consents env c p.transfer p.decision ∧ p.sender = env.frame.origin := by
  constructor
  · intro h
    -- part by part, in the order of the plan: a fault would have made it an error
    by_cases hname : env.frame.MayName req.sender
    · rcases coinFault_or_pair c env.out (action.denom g.config) req.token with ⟨e, he⟩ | ⟨ho, pair, hpair, haddress⟩
      · rw [plan_of_coinFault hname he] at h
        cases h
      have ht : g.Drafts env action req c (g.draft env action req pair.denom) := ⟨pair, hpair, haddress, rfl⟩
      cases hform : (g.draft env action req pair.denom).check with
      | error flaw =>
        rw [plan_of_bad_form hname ho ht hform] at h
        cases h
      | ok _ =>
        rcases consentFault_or_consents env c (g.draft env action req pair.denom) with ⟨e, he⟩ | ⟨hlookup, d, hd⟩
        · rw [plan_of_consentFault hname ho ht hform he] at h
          cases h
        · rw [plan_of_draft hname ho ht, hform, authorize_of_consents hname hlookup hd] at h
          cases h
          exact ⟨hname, ho, ht, hform, hlookup, hd, rfl⟩
    · rw [plan_of_forbidden hname] at h
      cases h
  · rintro ⟨hname, ho, ht, hform, hlookup, hd, hsender⟩
    rw [plan_of_draft hname ho ht, hform, authorize_of_consents hname hlookup hd, ← hsender]
    rfl

end Plans

end RemoteStaking
