import RemoteStaking.Proofs.Authorization.Spending
import RemoteStaking.Proofs.Gateway.Stages

/-!
# `RemoteStaking.Proofs.Gateway.Success` — when a call succeeds, and what is on record then

When nothing is out, whether a call succeeds depends on the request and the chain alone. A call that succeeds is on
record in balances, numbers, packets, grants and logs and in its own answer, which all tell of one transfer; all else
is as before.

## Contents
- **`Gateway.Admits`**: the condition for success.
- **`Gateway.Records`**: how the chain after the call differs from the one before.
- **`serve_of_admits`**: the answer and the chain after the call, in one piece.
- **`serve_succeeds_iff_admits`**: success if and only if the condition holds, with the answer and what is on record.
-/

namespace RemoteStaking

/-! ## The condition and the record -/

namespace Gateway

/-- **The condition for success**, with the transfer that the request comes down to. -/
structure Admits (g : Gateway) (env : Circumstances) (action : Action) (req : Request) (c : Chain) (t : Transfer) :
    Prop where
  mayName : env.frame.MayName req.sender
  drafts : g.Drafts env action req c t
  wellFormed : t.check = .ok ()
  consents : env.frame.caller = env.frame.origin ∨
    ∃ grant verdict, c.grants.get? (.transfer env.frame.caller env.frame.origin) = some grant ∧
      grant.expiry.reached env.block = false ∧ grant.authorization.accept t = .ok verdict
  routeOpen : c.ledger.isOpen g.config.route = true
  funds : req.amount.toNat ≤ (c.ledger.balance (env.frame.origin.toBech32 g.config.hrp) t.token.denom).toNat
  journalOpen : c.journal.closed = false

/-- **What is on record after success**: how the chain `c'` after the call differs from `c` before it. -/
structure Records (g : Gateway) (env : Circumstances) (action : Action) (req : Request) (c : Chain) (t : Transfer)
    (c' : Chain) : Prop where
  pairs : c'.pairs = c.pairs
  /-- The origin has paid the amount. -/
  paid : (c.ledger.balance (env.frame.origin.toBech32 g.config.hrp) t.token.denom).toNat =
    req.amount.toNat + (c'.ledger.balance (env.frame.origin.toBech32 g.config.hrp) t.token.denom).toNat
  otherBalances : ∀ account denom, (account, denom) ≠ (env.frame.origin.toBech32 g.config.hrp, t.token.denom) →
    c'.ledger.balance account denom = c.ledger.balance account denom
  /-- The next packet over the route has the next number. -/
  counted : (c'.ledger.nextSequence g.config.route).toNat = (c.ledger.nextSequence g.config.route).toNat + 1
  otherRoutes : ∀ route, route ≠ g.config.route → c'.ledger.nextSequence route = c.ledger.nextSequence route
  /-- The packet of the number is the transfer. -/
  packet : c'.ledger.packets.get? (g.config.route.channel, c.ledger.nextSequence g.config.route) = some t
  otherPackets : ∀ key, key ≠ (g.config.route.channel, c.ledger.nextSequence g.config.route) →
    c'.ledger.packets.get? key = c.ledger.packets.get? key
  openRoutes : c'.ledger.openRoutes = c.ledger.openRoutes
  refused : c'.ledger.refused = c.ledger.refused
  /-- No grant was needed and none has changed. -/
  ownCall : env.frame.caller = env.frame.origin → c'.grants = c.grants
  /-- The grant is what accepting the transfer left of it, with the same end, or is gone if nothing is left. -/
  granted : env.frame.caller ≠ env.frame.origin → ∃ grant verdict,
    c.grants.get? (.transfer env.frame.caller env.frame.origin) = some grant ∧
    grant.authorization.accept t = .ok verdict ∧
    c'.grants.get? (.transfer env.frame.caller env.frame.origin) =
      (verdict.remaining grant.authorization).map fun rest => ⟨rest, grant.expiry⟩
  otherGrants : ∀ key, key ≠ .transfer env.frame.caller env.frame.origin → c'.grants.get? key = c.grants.get? key
  logs : c'.journal.logs = c.journal.logs ++
    [g.transferLog env t (c.ledger.nextSequence g.config.route), g.actionLog env action req]
  journalOpen : c'.journal.closed = c.journal.closed

end Gateway

/-! ## The grants -/

section Grants

variable {env : Circumstances} {c : Chain} {t : Transfer} {d : Decision} {key : GrantKey}

/-- The grants under other keys are those that were there. -/
theorem get?_grantsAfter_of_key?_ne (h : d.key? ≠ some key) (grants : Table GrantKey Grant) :
    (d.grantsAfter grants).get? key = grants.get? key := by
  cases d with
  | notNeeded => rfl
  | granted grantee granter verdict expiry =>
    have hne : GrantKey.transfer grantee granter ≠ key := fun heq => h (congrArg some heq)
    cases verdict with
    | unlimited => rfl
    | exhausted => exact (Table.get?_erase ..).trans (if_neg hne)
    | reduced rest => exact (Table.get?_insert ..).trans (if_neg hne)

theorem get?_grantsAfter_of_ne (hd : Consents env c t d) (h : key ≠ .transfer env.frame.caller env.frame.origin) :
    (d.grantsAfter c.grants).get? key = c.grants.get? key := by
  apply get?_grantsAfter_of_key?_ne
  cases hd with
  | direct => exact nofun
  | granted => exact fun heq => h (Option.some.inj heq).symm

/-- What is stored of the grant is what the verdict leaves. That is also so when the leave is unlimited and nothing is
    written: the grant was there before. -/
theorem get?_grantsAfter {grant : Grant} {verdict : Verdict} {grantee granter : Address}
    (hgrant : c.grants.get? (.transfer grantee granter) = some grant) :
    ((Decision.granted grantee granter verdict grant.expiry).grantsAfter c.grants).get? (.transfer grantee granter) =
      (verdict.remaining grant.authorization).map fun rest => ⟨rest, grant.expiry⟩ := by
  cases verdict with
  | unlimited => exact hgrant
  | exhausted => exact (Table.get?_erase ..).trans (if_pos rfl)
  | reduced rest => exact (Table.get?_insert ..).trans (if_pos rfl)

end Grants

namespace Gateway

variable {g : Gateway} {block : Block} {frame : CallFrame} {action : Action} {req : Request} {c : Chain} {t : Transfer}

/-! ## From the condition to the record -/

/-- **A call that is admitted.** Every step goes well, since nothing is out and the journal is open. -/
theorem serve_of_admits (h : g.Admits ⟨block, frame, .none⟩ action req c t) :
    ∃ d left, Consents ⟨block, frame, .none⟩ c t d ∧ c.ledger.debit t = .ok left ∧
      g.serve ⟨block, frame, .none⟩ action req c =
        (.ok (receipt action req ⟨frame.origin, t, d⟩ (c.ledger.nextSequence t.route)),
          { c with
            ledger := c.ledger.record t left
            grants := d.grantsAfter c.grants
            journal.logs := c.journal.logs ++ [g.transferLog ⟨block, frame, .none⟩ t (c.ledger.nextSequence t.route),
              g.actionLog ⟨block, frame, .none⟩ action req] }) := by
  obtain ⟨d, hd⟩ := exists_consents_iff.2 h.consents
  obtain ⟨hroute, hsender, hamount⟩ := fields_of_drafts h.drafts
  have hplan : g.plan ⟨block, frame, .none⟩ action req c = .ok ⟨frame.origin, t, d⟩ :=
    plan_eq_ok_iff.2 ⟨h.mayName, rfl, h.drafts, h.wellFormed, .inr rfl, hd, rfl⟩
  obtain ⟨left, hs⟩ : ∃ left, c.ledger.debit t = .ok left := by
    apply Ledger.debit_of_funds
    · rw [hroute]
      exact h.routeOpen
    · rw [hsender, hamount]
      exact h.funds
  have hsettle : ∀ e, ¬ SettleFault .none d e := fun _ => not_settleFault_none
  have hlog : ∀ more e, ¬ LogFault .none c.journal more e := fun _ _ => not_logFault_none h.journalOpen
  refine ⟨d, left, hd, hs, ?_⟩
  rw [serve_of_plan hplan, carryOut_of_debit hs, conclude_of_writable (settle_of_consents hd hsettle) (hlog 0) (hlog 1)]

/-- The chain after all steps is on record as it should be, one store after the other. -/
theorem records_of_debit {env : Circumstances} {d : Decision} {left : Amount} (ht : g.Drafts env action req c t)
    (hd : Consents env c t d) (hs : c.ledger.debit t = .ok left)
    (hseq : (c.ledger.nextSequence g.config.route).toNat < UInt64.size - 1) :
    g.Records env action req c t { c with
      ledger := c.ledger.record t left
      grants := d.grantsAfter c.grants
      journal.logs := c.journal.logs ++
        [g.transferLog env t (c.ledger.nextSequence t.route), g.actionLog env action req] } := by
  obtain ⟨hroute, hsender, hamount⟩ := fields_of_drafts ht
  obtain ⟨-, hpaid⟩ := Ledger.debit_eq_ok_iff.1 hs
  constructor
  case pairs => rfl
  -- the ledger, by the law of `Ledger.record` for each view
  case paid =>
    show _ = req.amount.toNat + ((c.ledger.record t left).balance _ _).toNat
    rw [Ledger.balance_record, ← hsender, if_pos rfl, ← hamount]
    exact hpaid
  case otherBalances =>
    intro account denom hne
    show (c.ledger.record t left).balance account denom = _
    rw [Ledger.balance_record, hsender, if_neg (Ne.symm hne)]
  case counted =>
    show ((c.ledger.record t left).nextSequence g.config.route).toNat = _
    rw [Ledger.nextSequence_record, if_pos hroute, UInt64.toNat_add]
    exact Nat.mod_eq_of_lt (Nat.add_lt_of_lt_sub hseq)
  case otherRoutes =>
    intro route hne
    show (c.ledger.record t left).nextSequence route = _
    rw [Ledger.nextSequence_record, hroute, if_neg (Ne.symm hne)]
  case packet =>
    show (c.ledger.record t left).packets.get? _ = _
    rw [Ledger.get?_packets_record, hroute, if_pos rfl]
  case otherPackets =>
    intro key hne
    show (c.ledger.record t left).packets.get? key = _
    rw [Ledger.get?_packets_record, hroute, if_neg (Ne.symm hne)]
  case openRoutes => rfl
  case refused => rfl
  -- the grants, by what the consent was
  case ownCall =>
    intro hcaller
    cases hd with
    | direct => rfl
    | granted hne => exact absurd hcaller hne
  case granted =>
    intro hcaller
    cases hd with
    | direct heq => exact absurd heq hcaller
    | @granted grant verdict _ hgrant _ haccept =>
      exact ⟨grant, verdict, hgrant, haccept, get?_grantsAfter hgrant⟩
  case otherGrants =>
    intro key hne
    exact get?_grantsAfter_of_ne hd hne
  case logs =>
    show _ = c.journal.logs ++ [g.transferLog env t (c.ledger.nextSequence g.config.route), _]
    rw [← hroute]
  case journalOpen => rfl

/-! ## From success to the condition -/

/-- A call that was answered met no fault, so every part of the condition holds. -/
theorem admits_of_ok {env : Circumstances} {r : Receipt} (h : (g.serve env action req c).1 = .ok r) :
    ∃ t, g.Admits env action req c t := by
  have hclear : ∀ s e, ¬ g.Fault env action req c s e := by
    intro s e hfault
    obtain ⟨s', e', hfirst⟩ := exists_firstFault hfault
    have herr := (serve_of_firstFault hfirst).1
    rw [h] at herr
    cases herr
  obtain ⟨-, t, ht⟩ := drafts_of_clear (hclear .token)
  obtain ⟨-, d, hd⟩ := consents_of_clear ht (hclear .consent)
  obtain ⟨left, hs⟩ := debit_of_clear ht (hclear .sending)
  obtain ⟨hroute, hsender, hamount⟩ := fields_of_drafts ht
  obtain ⟨hopen, hpaid⟩ := Ledger.debit_eq_ok_iff.1 hs
  refine ⟨t, mayName_of_clear (hclear .mandate), ht, check_of_clear ht (hclear .form),
    exists_consents_iff.1 ⟨d, hd⟩, hroute ▸ hopen, ?_, ?_⟩
  · rw [← hsender, ← hamount, hpaid]
    exact Nat.le_add_right ..
  · rw [Bool.eq_false_iff]
    intro hc
    -- a closed journal is a fault, unless the logs are out, which is one too
    cases hout : env.out.logsFrom.any (· ≤ c.journal.logs.length + 0) with
    | true => exact hclear _ _ (.transferLog (.outage hout))
    | false => exact hclear _ _ (.transferLog (.closed hout hc))

/-- **Success.** With nothing out, a call is answered if and only if the condition holds. The answer is then the number
    of the packet, in the form of call data and as a text, and the chain has on record what the answer says. -/
theorem serve_succeeds_iff_admits (g : Gateway) (block : Block) (frame : CallFrame) (action : Action) (req : Request)
    (c : Chain) (hseq : (c.ledger.nextSequence g.config.route).toNat < UInt64.size - 1) :
    ((∃ r, (g.serve ⟨block, frame, .none⟩ action req c).1 = .ok r) ↔
      ∃ t, g.Admits ⟨block, frame, .none⟩ action req c t) ∧
    ∀ t, g.Admits ⟨block, frame, .none⟩ action req c t →
      (g.serve ⟨block, frame, .none⟩ action req c).1 = .ok
        { data := Abi.encode [.uint (sequenceWord (c.ledger.nextSequence g.config.route)), .bool true]
          attributes :=
            [("method", action.method.name), ("sender", frame.origin.toHex), ("receiver", req.receiver),
             ("coin", toString t.token), ("channel_id", g.config.route.channel),
             ("sequence", toString (c.ledger.nextSequence g.config.route))] } ∧
      g.Records ⟨block, frame, .none⟩ action req c t (g.serve ⟨block, frame, .none⟩ action req c).2 := by
  refine ⟨⟨fun ⟨r, hr⟩ => admits_of_ok hr, ?_⟩, ?_⟩
  · rintro ⟨t, ht⟩
    obtain ⟨d, left, -, -, hserve⟩ := serve_of_admits ht
    exact ⟨_, congrArg Prod.fst hserve⟩
  · intro t ht
    obtain ⟨d, left, hd, hs, hserve⟩ := serve_of_admits ht
    rw [hserve]
    refine ⟨?_, records_of_debit ht.drafts hd hs hseq⟩
    unfold receipt
    rw [(fields_of_drafts ht.drafts).1]

/-! ## A call through a grant -/

/-- A gateway to a staking chain. -/
def sampleGateway : Gateway where
  config := ⟨"0x0000000000000000000000000000000000000800", ⟨"transfer", "channel-0"⟩, "uosmo", "osmo"⟩
  address := ⟨List.replicate 18 0 ++ [8, 0], by decide⟩

/-- A contract calls in a transaction that somebody else has signed. -/
def sampleFrame : CallFrame where
  origin := ⟨List.replicate 20 1, by decide⟩
  caller := ⟨List.replicate 20 2, by decide⟩

/-- The contract names itself as the sender. -/
def sampleRequest : Request where
  sender := sampleFrame.caller
  token := ⟨List.replicate 20 3, by decide⟩
  amount := ⟨20, by decide⟩
  receiver := "stride1receiver"

/-- The origin has 100, of which it has granted 80 to the contract. -/
def sampleChain : Chain where
  pairs := Table.empty.insert "uosmo" ⟨"0x0303030303030303030303030303030303030303", "uosmo"⟩
  grants := Table.empty.insert (.transfer sampleFrame.caller sampleFrame.origin)
    ⟨⟨[⟨⟨"transfer", "channel-0"⟩, [⟨"uosmo", ⟨80, by decide⟩⟩], []⟩]⟩, .never⟩
  ledger := (Ledger.empty.openRoute ⟨"transfer", "channel-0"⟩).setBalance (sampleFrame.origin.toBech32 "osmo")
    ⟨"uosmo", ⟨100, by decide⟩⟩
  journal := .empty

/-- The transfer of 20 from the origin. -/
def sampleTransfer : Transfer :=
  sampleGateway.draft ⟨⟨7, 9⟩, sampleFrame, .none⟩ .liquidStake sampleRequest "uosmo"

theorem admits_sampleTransfer :
    sampleGateway.Admits ⟨⟨7, 9⟩, sampleFrame, .none⟩ .liquidStake sampleRequest sampleChain sampleTransfer where
  mayName := .inl rfl
  drafts := ⟨⟨"0x0303030303030303030303030303030303030303", "uosmo"⟩, rfl, rfl, rfl⟩
  wellFormed := by
    have hok : sampleTransfer.check.isOk = true := by decide +kernel
    cases hform : sampleTransfer.check with
    | ok _ => rfl
    | error flaw =>
      rw [hform] at hok
      cases hok
  consents := .inr ⟨⟨⟨[⟨⟨"transfer", "channel-0"⟩, [⟨"uosmo", ⟨80, by decide⟩⟩], []⟩]⟩, .never⟩,
    .reduced ⟨[⟨⟨"transfer", "channel-0"⟩, [⟨"uosmo", ⟨60, by decide⟩⟩], []⟩]⟩, rfl, rfl, rfl⟩
  routeOpen := rfl
  funds := by decide +kernel
  journalOpen := rfl

/-- The contract is answered. The origin is left with 80, and the first packet over the channel is the transfer. -/
theorem sampleTransfer_on_record :
    (sampleChain.ledger.nextSequence sampleGateway.config.route).toNat < UInt64.size - 1 ∧
    (∃ r, (sampleGateway.serve ⟨⟨7, 9⟩, sampleFrame, .none⟩ .liquidStake sampleRequest sampleChain).1 = .ok r) ∧
    ((sampleGateway.serve ⟨⟨7, 9⟩, sampleFrame, .none⟩ .liquidStake sampleRequest sampleChain).2.ledger.balance
      (sampleFrame.origin.toBech32 sampleGateway.config.hrp) sampleTransfer.token.denom).toNat = 80 ∧
    (sampleGateway.serve ⟨⟨7, 9⟩, sampleFrame, .none⟩ .liquidStake sampleRequest sampleChain).2.ledger.packets.get?
      ("channel-0", 1) = some sampleTransfer := by
  have hseq : (sampleChain.ledger.nextSequence sampleGateway.config.route).toNat < UInt64.size - 1 := by decide
  obtain ⟨hiff, hrecords⟩ := serve_succeeds_iff_admits sampleGateway ⟨7, 9⟩ sampleFrame .liquidStake sampleRequest
    sampleChain hseq
  obtain ⟨-, hrecord⟩ := hrecords sampleTransfer admits_sampleTransfer
  have hbefore : (sampleChain.ledger.balance (sampleFrame.origin.toBech32 sampleGateway.config.hrp)
      sampleTransfer.token.denom).toNat = 100 := by
    decide +kernel
  have hamount : sampleRequest.amount.toNat = 20 := rfl
  have hpaid := hrecord.paid
  dsimp only at hpaid
  rw [hbefore, hamount] at hpaid
  refine ⟨hseq, hiff.2 ⟨_, admits_sampleTransfer⟩, ?_, hrecord.packet⟩
  omega

end Gateway

end RemoteStaking
