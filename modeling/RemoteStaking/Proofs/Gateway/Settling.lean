import RemoteStaking.Proofs.Gateway.Success

/-!
# `RemoteStaking.Proofs.Gateway.Settling` — the grant that is looked at is the grant that is written

Whether a mandate covers a transfer is found out before the transfer is sent, and the grant is written only after it.
The two have to mean the same grant, among any others: those of other accounts, the grant the other way round, and
grants for other messages. A grant that is to be removed has to be there still, or settling would fail.

## Contents
- **`Mandate.key?`**: the grant on which a mandate rests. **`Mandate.Covers`**: when the mandate covers a transfer, and
  with which decision. `authorize_eq_ok_iff`: that is when it is found to.
- **`Mandate.Settled`**: what the chain is once the decision is settled. `settle_of_covers`, `settled_of_covers`.
- **`Mandate.authorize_agrees_with_settle`**: both together, with grants in both directions as a case of it.
-/

namespace RemoteStaking

namespace Mandate

/-! ## Whether a mandate covers a transfer -/

/-- The grant on which a mandate rests, if it needs one: the grantee acts, and the tokens are those of the granter. -/
def key? : Mandate → Option GrantKey
  | .direct _ => none
  | .delegated granter grantee => some (.transfer grantee granter)
  | .forbidden _ _ => none

/-- **A mandate covers a transfer**, with a decision about its grant: the origin acts for itself, or the grantee has a
    grant that has not ended and accepts the transfer. -/
inductive Covers (c : Chain) (block : Block) (t : Transfer) : Mandate → Decision → Prop where
  | direct (sender : Address) : Covers c block t (.direct sender) .notNeeded
  | delegated {granter grantee : Address} {grant : Grant} {verdict : Verdict}
      (hgrant : c.grants.get? (.transfer grantee granter) = some grant) (hlive : grant.expiry.reached block = false)
      (haccept : grant.authorization.accept t = .ok verdict) :
      Covers c block t (.delegated granter grantee) (.granted grantee granter verdict grant.expiry)

variable {mandate : Mandate} {block : Block} {t : Transfer} {c c' : Chain} {d : Decision}

theorem authorize_of_covers (h : mandate.Covers c block t d) : mandate.authorize .none block t c = .ok d := by
  cases h with
  | direct sender => rfl
  | @delegated granter grantee grant verdict hgrant hlive haccept =>
    have hlookup : c.grant? .none grantee granter = .ok (some grant) := congrArg Except.ok hgrant
    unfold authorize
    simp only [hlookup, hlive, haccept]
    rfl

theorem covers_of_authorize (h : mandate.authorize .none block t c = .ok d) : mandate.Covers c block t d := by
  cases mandate with
  | direct sender =>
    cases h
    exact .direct sender
  | forbidden origin declared => cases h
  | delegated granter grantee =>
    have hlookup : c.grant? .none grantee granter = .ok (c.grants.get? (.transfer grantee granter)) := rfl
    unfold authorize at h
    simp only [hlookup] at h
    -- what is in the way, in the order in which it is looked for
    cases hgrant : c.grants.get? (.transfer grantee granter) with
    | none =>
      rw [hgrant] at h
      cases h
    | some grant =>
      simp only [hgrant] at h
      cases hlive : grant.expiry.reached block with
      | true =>
        simp only [hlive, if_true] at h
        cases h
      | false =>
        simp only [hlive, Bool.false_eq_true, if_false] at h
        cases haccept : grant.authorization.accept t with
        | error cause =>
          rw [haccept] at h
          cases h
        | ok verdict =>
          rw [haccept] at h
          cases h
          exact .delegated hgrant hlive haccept

/-- **What is found is what holds.** -/
theorem authorize_eq_ok_iff : mandate.authorize .none block t c = .ok d ↔ mandate.Covers c block t d :=
  ⟨covers_of_authorize, authorize_of_covers⟩

/-- A decision is about the grant on which the mandate rests. -/
theorem key?_of_covers (h : mandate.Covers c block t d) : d.key? = mandate.key? := by
  cases h <;> rfl

/-! ## What settling leaves -/

/-- **The chain once a decision is settled.** -/
structure Settled (mandate : Mandate) (t : Transfer) (c c' : Chain) : Prop where
  /-- Nothing but grants has changed. -/
  frame : c' = { c with grants := c'.grants }
  /-- Without a grant nothing has changed at all. -/
  own : mandate.key? = none → c' = c
  otherGrants : ∀ key, mandate.key? ≠ some key → c'.grants.get? key = c.grants.get? key
  /-- Of the grant on which the mandate rests there is what the verdict leaves, with the same end. -/
  consulted : ∀ key, mandate.key? = some key → ∃ grant verdict, c.grants.get? key = some grant ∧
    grant.authorization.accept t = .ok verdict ∧
    c'.grants.get? key = (verdict.remaining grant.authorization).map fun rest => ⟨rest, grant.expiry⟩

theorem settle_of_covers (h : mandate.Covers c block t d) :
    d.settle .none c = .ok { c with grants := d.grantsAfter c.grants } := by
  refine settle_of_stored (l := c.ledger) ?_ fun _ => not_settleFault_none
  intro key hkey
  cases h with
  | direct sender => cases hkey
  | delegated hgrant hlive haccept =>
    cases hkey
    exact ⟨_, hgrant⟩

theorem settled_of_covers (h : mandate.Covers c block t d) :
    mandate.Settled t c { c with grants := d.grantsAfter c.grants } where
  frame := rfl
  own hkey := by
    cases h with
    | direct sender => rfl
    | delegated => cases hkey
  otherGrants key hkey := by
    rw [← key?_of_covers h] at hkey
    exact get?_grantsAfter_of_key?_ne hkey c.grants
  consulted key hkey := by
    cases h with
    | direct sender => cases hkey
    | @delegated granter grantee grant verdict hgrant hlive haccept =>
      cases hkey
      exact ⟨grant, verdict, hgrant, haccept, get?_grantsAfter hgrant⟩

/-! ## Both together -/

/-- **Guard and settlement agree.** A decision is reached if and only if the mandate is direct, or delegated and the
    grantee has a grant of the granter that has not ended and accepts the transfer. Any decision that is reached can be
    settled on the chain for which it was made; settling writes the grant that was looked at, and no other. -/
theorem authorize_agrees_with_settle (mandate : Mandate) (block : Block) (t : Transfer) (c : Chain) :
    ((∃ d, mandate.authorize .none block t c = .ok d) ↔
      (∃ sender, mandate = .direct sender) ∨
      ∃ granter grantee grant verdict, mandate = .delegated granter grantee ∧
        c.grants.get? ⟨grantee, granter, Transfer.typeUrl⟩ = some grant ∧ grant.expiry.reached block = false ∧
        grant.authorization.accept t = .ok verdict) ∧
    ∀ d, mandate.authorize .none block t c = .ok d →
      ∃ c', d.settle .none c = .ok c' ∧ mandate.Settled t c c' := by
  constructor
  · constructor
    · rintro ⟨d, hd⟩
      cases covers_of_authorize hd with
      | direct sender => exact .inl ⟨sender, rfl⟩
      | delegated hgrant hlive haccept => exact .inr ⟨_, _, _, _, rfl, hgrant, hlive, haccept⟩
    · rintro (⟨sender, rfl⟩ | ⟨granter, grantee, grant, verdict, rfl, hgrant, hlive, haccept⟩)
      · exact ⟨_, authorize_of_covers (.direct sender)⟩
      · exact ⟨_, authorize_of_covers (.delegated hgrant hlive haccept)⟩
  · intro d hd
    have hcovers : mandate.Covers c block t d := covers_of_authorize hd
    exact ⟨_, settle_of_covers hcovers, settled_of_covers hcovers⟩

/-! ## Grants in both directions -/

/-- Leave to send 64 over one route, for good. -/
def leaveOf64 : Grant :=
  ⟨⟨[⟨⟨"transfer", "channel-0"⟩, [⟨"uosmo", ⟨64, by decide⟩⟩], []⟩]⟩, .never⟩

/-- A user and a contract have granted each other leave, and the contract may send other messages for the user, too. -/
def mutualChain : Chain where
  pairs := .empty
  grants := ((Table.empty.insert (.transfer Gateway.sampleFrame.caller Gateway.sampleFrame.origin) leaveOf64).insert
    (.transfer Gateway.sampleFrame.origin Gateway.sampleFrame.caller) leaveOf64).insert
    ⟨Gateway.sampleFrame.caller, Gateway.sampleFrame.origin, "/cosmos.bank.v1beta1.MsgSend"⟩ leaveOf64
  ledger := .empty
  journal := .empty

/-- The user's 64, all that the contract may send. -/
def wholeTransfer : Transfer :=
  .along ⟨"transfer", "channel-0"⟩ ⟨"uosmo", ⟨64, by decide⟩⟩ "osmo1user" "stride1receiver" ""

/-- The grant of the user is used up and removed. The one the other way round and the one for other messages stay. -/
theorem wholeTransfer_settled :
    (Mandate.delegated Gateway.sampleFrame.origin Gateway.sampleFrame.caller).authorize .none ⟨7, 9⟩ wholeTransfer
      mutualChain = .ok (.granted Gateway.sampleFrame.caller Gateway.sampleFrame.origin .exhausted .never) ∧
    ∃ c', Decision.settle (.granted Gateway.sampleFrame.caller Gateway.sampleFrame.origin .exhausted .never) .none
        mutualChain = .ok c' ∧
      c'.grants.get? (.transfer Gateway.sampleFrame.caller Gateway.sampleFrame.origin) = none ∧
      c'.grants.get? (.transfer Gateway.sampleFrame.origin Gateway.sampleFrame.caller) = some leaveOf64 ∧
      c'.grants.get? ⟨Gateway.sampleFrame.caller, Gateway.sampleFrame.origin, "/cosmos.bank.v1beta1.MsgSend"⟩ =
        some leaveOf64 := by
  have hdecision : (Mandate.delegated Gateway.sampleFrame.origin Gateway.sampleFrame.caller).authorize .none ⟨7, 9⟩
      wholeTransfer mutualChain =
        .ok (.granted Gateway.sampleFrame.caller Gateway.sampleFrame.origin .exhausted .never) := rfl
  obtain ⟨c', hsettle, hsettled⟩ := (authorize_agrees_with_settle _ _ _ _).2 _ hdecision
  obtain ⟨grant, verdict, hgrant, haccept, hrest⟩ := hsettled.consulted _ rfl
  have hfound : mutualChain.grants.get? (.transfer Gateway.sampleFrame.caller Gateway.sampleFrame.origin) =
      some leaveOf64 := rfl
  rw [hfound] at hgrant
  cases hgrant
  have hverdict : leaveOf64.authorization.accept wholeTransfer = .ok .exhausted := rfl
  rw [hverdict] at haccept
  cases haccept
  exact ⟨hdecision, c', hsettle, hrest, hsettled.otherGrants _ (by decide), hsettled.otherGrants _ (by decide)⟩

end Mandate

end RemoteStaking
