import RemoteStaking.Proofs.Chain.Sending
import RemoteStaking.Proofs.Gateway.Planning

/-!
# `RemoteStaking.Proofs.Gateway.Carrying` — what carrying out a plan does, step by step

Carrying out has four steps, and no step takes back what one before it did. So there is one law for each step that can
fail, with the chain that is left, and one for all of them going well.

## Contents
- **The logs.** `Gateway.transferLog`, `Gateway.actionLog`, and that the emitter writes them if the journal takes them
  (`transfer_of_writable`, `action_of_writable`).
- **The grant.** `Decision.grantsAfter`, `Decision.key?`, `SettleFault`, `settle_of_stored`, `settle_of_consents`.
- **Concluding.** `conclude_of_settleFault`, `conclude_of_transferLogFault`, `conclude_of_actionLogFault`, and
  `conclude_of_writable`.
- **Carrying out.** `carryOut_of_sendFault`, `carryOut_of_debit`.
- **After the transfer.** `Gateway.conclude_frame`: only the grant and the logs are touched. **`carryOut_ledger`**: what is
  left of the ledger.
-/

namespace RemoteStaking

/-! ## The logs -/

/-- The log of a transfer that was sent as the packet of a number, in the name of the origin. -/
def Gateway.transferLog (g : Gateway) (env : Circumstances) (t : Transfer) (sequence : UInt64) : Log where
  address := g.address
  topics := [transferEvent.topic, addressTopic env.frame.origin, textTopic t.receiver]
  data := Abi.encode (transferValues t sequence)
  height := env.block.height

/-- The log of what the transfer was for. -/
def Gateway.actionLog (g : Gateway) (env : Circumstances) (action : Action) (req : Request) : Log where
  address := g.address
  topics := [action.event.topic, addressTopic env.frame.origin, addressTopic req.token]
  data := Abi.encode (action.values req)
  height := env.block.height

section Logs

variable {g : Gateway} {env : Circumstances} {action : Action} {req : Request} {t : Transfer} {n : UInt64} {c : Chain}

theorem emit_transfer : (g.emitter env).transfer env.out env.frame.origin t n c =
    (c.addLog env.out (g.transferLog env t n)).mapError fun e => .notEmitted transferEvent.name (.notWritten e) :=
  rfl

theorem emit_action : (g.emitter env).action env.out action env.frame.origin req c =
    (c.addLog env.out (g.actionLog env action req)).mapError fun e =>
      .notEmitted action.event.name (.notWritten e) := by
  cases action <;> rfl

theorem transfer_of_fault {e : ChainError} (h : LogFault env.out c.journal 0 e) :
    (g.emitter env).transfer env.out env.frame.origin t n c =
      .error (.notEmitted transferEvent.name (.notWritten e)) := by
  rw [emit_transfer, Chain.addLog_of_fault h]
  rfl

theorem transfer_of_writable (h : ∀ e, ¬ LogFault env.out c.journal 0 e) :
    (g.emitter env).transfer env.out env.frame.origin t n c =
      .ok { c with journal.logs := c.journal.logs ++ [g.transferLog env t n] } := by
  rw [emit_transfer, Chain.addLog_of_writable h]
  rfl

theorem action_of_fault {e : ChainError} (h : LogFault env.out c.journal 0 e) :
    (g.emitter env).action env.out action env.frame.origin req c =
      .error (.notEmitted action.event.name (.notWritten e)) := by
  rw [emit_action, Chain.addLog_of_fault h]
  rfl

theorem action_of_writable (h : ∀ e, ¬ LogFault env.out c.journal 0 e) :
    (g.emitter env).action env.out action env.frame.origin req c =
      .ok { c with journal.logs := c.journal.logs ++ [g.actionLog env action req] } := by
  rw [emit_action, Chain.addLog_of_writable h]
  rfl

end Logs

/-! ## The grant -/

/-- The grants once a decision is settled. -/
def Decision.grantsAfter (grants : Table GrantKey Grant) : Decision → Table GrantKey Grant
  | .notNeeded => grants
  | .granted _ _ .unlimited _ => grants
  | .granted grantee granter .exhausted _ => grants.erase (.transfer grantee granter)
  | .granted grantee granter (.reduced rest) expiry => grants.insert (.transfer grantee granter) ⟨rest, expiry⟩

/-- The grant that a decision is about, if it is about one. -/
def Decision.key? : Decision → Option GrantKey
  | .notNeeded => none
  | .granted grantee granter _ _ => some (.transfer grantee granter)

/-- Why a decision is not settled: a service that it needs is out. -/
inductive SettleFault (out : Outage) : Decision → ChainError → Prop where
  | save {grantee granter : Address} {rest : Authorization} {expiry : Expiry} (ho : out.grantSave = true) :
      SettleFault out (.granted grantee granter (.reduced rest) expiry) (.outage .grantSave)
  | removal {grantee granter : Address} {expiry : Expiry} (ho : out.grantRemoval = true) :
      SettleFault out (.granted grantee granter .exhausted expiry) (.outage .grantRemoval)

theorem not_settleFault_none {d : Decision} {e : ChainError} : ¬ SettleFault .none d e := by
  rintro (ho | ho) <;> cases ho

section Settling

variable {env : Circumstances} {out : Outage} {c : Chain} {t : Transfer} {d : Decision}

theorem settle_of_fault {e : ChainError} (h : SettleFault out d e) : d.settle out c = .error e := by
  unfold Decision.settle
  cases h with
  | save ho =>
    unfold Chain.saveGrant
    exact if_pos ho
  | removal ho =>
    unfold Chain.removeGrant
    exact if_pos ho

/-- A decision can be settled if the grant that it is about is stored, also after the ledger has changed. -/
theorem settle_of_stored {l : Ledger} (hstored : ∀ key, d.key? = some key → ∃ grant, c.grants.get? key = some grant)
    (h : ∀ e, ¬ SettleFault out d e) :
    d.settle out { c with ledger := l } = .ok { c with ledger := l, grants := d.grantsAfter c.grants } := by
  unfold Decision.settle
  cases d with
  | notNeeded => rfl
  | granted grantee granter verdict expiry =>
    cases verdict with
    | unlimited => rfl
    | exhausted =>
      -- only a grant that is there can be removed
      have ho : ¬ out.grantRemoval = true := fun ho => h _ (.removal ho)
      obtain ⟨grant, hgrant⟩ := hstored _ rfl
      unfold Chain.removeGrant Chain.deleteGrant
      simp only [if_neg ho, hgrant]
      rfl
    | reduced rest =>
      have ho : ¬ out.grantSave = true := fun ho => h _ (.save ho)
      unfold Chain.saveGrant
      simp only [if_neg ho]
      rfl

/-- The grant from which a consent comes is stored, so the decision can be settled. -/
theorem settle_of_consents {l : Ledger} (hd : Consents env c t d) (h : ∀ e, ¬ SettleFault out d e) :
    d.settle out { c with ledger := l } = .ok { c with ledger := l, grants := d.grantsAfter c.grants } := by
  refine settle_of_stored ?_ h
  intro key hkey
  cases hd with
  | direct => cases hkey
  | granted hne hgrant hlive haccept =>
    cases hkey
    exact ⟨_, hgrant⟩

end Settling

/-! ## Concluding -/

section Concluding

variable {g : Gateway} {env : Circumstances} {action : Action} {req : Request} {t : Transfer} {d : Decision}
  {n : UInt64} {c settled : Chain}

theorem conclude_of_settleFault {e : ChainError} (h : SettleFault env.out d e) :
    g.conclude env action req ⟨env.frame.origin, t, d⟩ n c = (.error (.grantNotUpdated e), c) := by
  unfold Gateway.conclude
  simp only [settle_of_fault h]

theorem conclude_of_transferLogFault {e : ChainError} (hd : d.settle env.out c = .ok settled)
    (h : LogFault env.out settled.journal 0 e) : g.conclude env action req ⟨env.frame.origin, t, d⟩ n c =
      (.error (.notEmitted transferEvent.name (.notWritten e)), settled) := by
  unfold Gateway.conclude
  simp only [hd, transfer_of_fault h]

theorem conclude_of_actionLogFault {e : ChainError} (hd : d.settle env.out c = .ok settled)
    (hlog : ∀ e, ¬ LogFault env.out settled.journal 0 e) (h : LogFault env.out settled.journal 1 e) :
    g.conclude env action req ⟨env.frame.origin, t, d⟩ n c =
      (.error (.notEmitted action.event.name (.notWritten e)),
        { settled with journal.logs := settled.journal.logs ++ [g.transferLog env t n] }) := by
  unfold Gateway.conclude
  -- the second log is refused by the journal that has the first one
  have haction : (g.emitter env).action env.out action env.frame.origin req
      { settled with journal.logs := settled.journal.logs ++ [g.transferLog env t n] } =
        .error (.notEmitted action.event.name (.notWritten e)) := action_of_fault (logFault_after.2 h)
  simp only [hd, transfer_of_writable hlog, haction]

theorem conclude_of_writable (hd : d.settle env.out c = .ok settled)
    (hlog : ∀ e, ¬ LogFault env.out settled.journal 0 e) (hlog' : ∀ e, ¬ LogFault env.out settled.journal 1 e) :
    g.conclude env action req ⟨env.frame.origin, t, d⟩ n c =
      (.ok (Gateway.receipt action req ⟨env.frame.origin, t, d⟩ n),
        { settled with
          journal.logs := settled.journal.logs ++ [g.transferLog env t n, g.actionLog env action req] }) := by
  unfold Gateway.conclude
  have haction : (g.emitter env).action env.out action env.frame.origin req
      { settled with journal.logs := settled.journal.logs ++ [g.transferLog env t n] } =
        .ok { settled with
          journal.logs := settled.journal.logs ++ [g.transferLog env t n] ++ [g.actionLog env action req] } :=
    action_of_writable fun e he => hlog' e (logFault_after.1 he)
  simp only [hd, transfer_of_writable hlog, haction, List.append_assoc, List.singleton_append]

end Concluding

/-! ## Carrying out -/

section CarryingOut

variable {g : Gateway} {env : Circumstances} {action : Action} {req : Request} {p : Plan} {c : Chain}

theorem carryOut_of_debit {left : Amount} (h : c.ledger.debit p.transfer = .ok left) :
    g.carryOut env action req p c = g.conclude env action req p (c.ledger.nextSequence p.transfer.route)
      { c with ledger := c.ledger.record p.transfer left } := by
  unfold Gateway.carryOut Chain.send
  rw [Ledger.send_of_debit h]

theorem carryOut_of_sendFault {e : ChainError} (h : Ledger.SendFault c.ledger p.transfer e) :
    g.carryOut env action req p c =
      (.error (.transferFailed e), { c with ledger.refused := c.ledger.refused + 1 }) := by
  unfold Gateway.carryOut Chain.send
  rw [Ledger.send_of_fault h]

end CarryingOut

/-! ## After the transfer -/

section Frame

variable {g : Gateway} {env : Circumstances} {out : Outage} {action : Action} {req : Request} {p : Plan} {n : UInt64}
  {c c' : Chain}

theorem addLog_frame {log : Log} (h : c.addLog out log = .ok c') : ∃ j, c' = { c with journal := j } := by
  unfold Chain.addLog at h
  split at h
  · cases h
  · cases hj : c.journal.add log with
    | error e =>
      rw [hj] at h
      cases h
    | ok j =>
      rw [hj] at h
      cases h
      exact ⟨j, rfl⟩

theorem emit_frame {m : Emitter} {name : String} {topics : List (List UInt8)} {values : List Abi.Value}
    (h : m.emit out name topics values c = .ok c') : ∃ j, c' = { c with journal := j } := by
  unfold Emitter.emit at h
  split at h
  · cases h
  · rename_i log _
    cases hlog : c.addLog out log with
    | error e =>
      rw [hlog] at h
      cases h
    | ok c'' =>
      rw [hlog] at h
      cases h
      exact addLog_frame hlog

theorem settle_frame {d : Decision} (h : d.settle out c = .ok c') :
    c' = { c with grants := d.grantsAfter c.grants } := by
  unfold Decision.settle at h
  split at h
  · cases h
    rfl
  · cases h
    rfl
  · unfold Chain.removeGrant Chain.deleteGrant at h
    split at h
    · cases h
    · split at h
      · cases h
        rfl
      · cases h
  · unfold Chain.saveGrant at h
    split at h
    · cases h
    · cases h
      rfl

/-- **After the transfer**, nothing changes or the grant is settled; besides that only logs are written. -/
theorem Gateway.conclude_frame (g : Gateway) (env : Circumstances) (action : Action) (req : Request) (p : Plan) (n : UInt64)
    (c : Chain) : (g.conclude env action req p n c).2 = c ∨
      ∃ j, (g.conclude env action req p n c).2 =
        { c with grants := p.decision.grantsAfter c.grants, journal := j } := by
  unfold Gateway.conclude
  split
  · exact .inl rfl
  · rename_i settled hsettle
    cases settle_frame hsettle
    right
    split
    · exact ⟨_, rfl⟩
    · rename_i logged htransfer
      obtain ⟨j, rfl⟩ := emit_frame htransfer
      split
      · exact ⟨j, rfl⟩
      · rename_i logged' haction
        obtain ⟨j', rfl⟩ := emit_frame haction
        exact ⟨j', rfl⟩

/-- Whatever becomes of the grant and the logs, the ledger stays as it is when the transfer was sent. -/
theorem conclude_ledger : (g.conclude env action req p n c).2.ledger = c.ledger := by
  rcases g.conclude_frame env action req p n c with h | ⟨j, h⟩ <;> rw [h]

/-- Carrying out a plan does one thing to the ledger: the transfer is sent, or counted as refused. -/
theorem carryOut_ledger : (g.carryOut env action req p c).2.ledger = (c.ledger.send p.transfer).2 := by
  unfold Gateway.carryOut Chain.send
  cases hs : c.ledger.send p.transfer with
  | mk result l =>
    cases result with
    | error e => rfl
    | ok n => exact conclude_ledger

end Frame

end RemoteStaking
