import RemoteStaking.Chain.Basic

/-!
# `RemoteStaking.Proofs.Chain.Sending` — what sending does to the books, and logging to the journal

The books are looked at through four views: balances, numbers of next packets, packets by channel and number, open
routes. Each view has one law for `Ledger.record`.

## Contents
- **Entries of tables.** What stands in a table after a value was put there.
- **`debit_eq_ok_iff`**: when a transfer can be sent. **`SendFault`**: why it cannot.
- **Views.** `balance_record`, `nextSequence_record`, `get?_packets_record`.
- **`LogFault`**: what keeps a log from being written, and **`addLog_of_writable`**: what is written otherwise.
-/

namespace RemoteStaking

/-! ## Entries of tables -/

namespace Table

variable {κ α : Type} [DecidableEq κ] {k : κ} {v : α}

/-- Putting a value under a key adds no other entry. -/
theorem mem_of_mem_insertEntry {e : κ × α} {es : List (κ × α)} (h : e ∈ insertEntry k v es) : e = (k, v) ∨ e ∈ es := by
  induction es with
  | nil => exact .inl (List.mem_singleton.1 h)
  | cons e' es ih =>
    unfold insertEntry at h
    split at h
    · exact (List.mem_cons.1 h).imp_right (List.mem_cons_of_mem _)
    · rcases List.mem_cons.1 h with rfl | h
      · exact .inr List.mem_cons_self
      · exact (ih h).imp_right (List.mem_cons_of_mem _)

/-- A key that was not used before comes last. -/
theorem insertEntry_of_fresh {es : List (κ × α)} (h : ∀ e ∈ es, e.1 ≠ k) : insertEntry k v es = es ++ [(k, v)] := by
  induction es with
  | nil => rfl
  | cons e es ih =>
    rw [insertEntry, if_neg (h e List.mem_cons_self), ih fun e' he' => h e' (List.mem_cons_of_mem e he')]
    rfl

end Table

namespace Ledger

variable {l : Ledger} {t : Transfer} {left : Amount}

/-! ## Whether a transfer can be sent -/

/-- A transfer can be sent if its route is open and the sender has what is sent and something, perhaps zero, left. -/
theorem debit_eq_ok_iff : l.debit t = .ok left ↔ l.isOpen t.route = true ∧
    (l.balance t.sender t.token.denom).toNat = t.token.amount.toNat + left.toNat := by
  unfold debit
  by_cases ho : l.isOpen t.route = true
  · rw [if_pos ho]
    cases h : (l.balance t.sender t.token.denom).sub t.token.amount with
    | ok rest =>
      have hrest := Amount.sub_eq_ok_iff.1 h
      constructor
      · intro heq
        cases heq
        exact ⟨ho, hrest⟩
      · rintro ⟨-, hleft⟩
        have : rest = left := Amount.ext (by omega)
        rw [this]
    | error e =>
      constructor
      · intro heq
        cases heq
      · rintro ⟨-, hleft⟩
        rw [Amount.sub_eq_ok_iff.2 hleft] at h
        cases h
  · rw [if_neg ho]
    constructor
    · intro heq
      cases heq
    · rintro ⟨hopen, -⟩
      exact absurd hopen ho

/-- Why a transfer is not sent. -/
inductive SendFault (l : Ledger) (t : Transfer) : ChainError → Prop where
  | closed (ho : l.isOpen t.route = false) : SendFault l t (.routeClosed t.route)
  | short (ho : l.isOpen t.route = true) (h : (l.balance t.sender t.token.denom).toNat < t.token.amount.toNat) :
      SendFault l t (.shortOfFunds (l.balance t.sender t.token.denom) t.token)

theorem debit_of_fault {e : ChainError} (h : SendFault l t e) : l.debit t = .error e := by
  unfold debit
  cases h with
  | closed ho =>
    rw [ho]
    rfl
  | short ho h =>
    unfold Amount.sub
    rw [if_pos ho, if_neg (Nat.not_le.2 h)]

theorem debit_of_funds (ho : l.isOpen t.route = true)
    (h : t.token.amount.toNat ≤ (l.balance t.sender t.token.denom).toNat) : ∃ left, l.debit t = .ok left := by
  have hlt := (l.balance t.sender t.token.denom).toNat_lt
  refine ⟨⟨(l.balance t.sender t.token.denom).toNat - t.token.amount.toNat, by omega⟩, ?_⟩
  rw [debit_eq_ok_iff]
  refine ⟨ho, ?_⟩
  show _ = t.token.amount.toNat + ((l.balance t.sender t.token.denom).toNat - t.token.amount.toNat)
  omega

theorem sendFault_or_funds (l : Ledger) (t : Transfer) : (∃ e, SendFault l t e) ∨
    (l.isOpen t.route = true ∧ t.token.amount.toNat ≤ (l.balance t.sender t.token.denom).toNat) := by
  cases ho : l.isOpen t.route with
  | false => exact .inl ⟨_, .closed ho⟩
  | true =>
    by_cases h : t.token.amount.toNat ≤ (l.balance t.sender t.token.denom).toNat
    · exact .inr ⟨rfl, h⟩
    · exact .inl ⟨_, .short ho (Nat.not_le.1 h)⟩

theorem send_of_debit (h : l.debit t = .ok left) : l.send t = (.ok (l.nextSequence t.route), l.record t left) := by
  unfold send
  rw [h]

theorem send_of_fault {e : ChainError} (h : SendFault l t e) :
    l.send t = (.error e, { l with refused := l.refused + 1 }) := by
  unfold send
  rw [debit_of_fault h]

/-! ## The books after a transfer -/

theorem balance_record (account denom : String) : (l.record t left).balance account denom =
    if (t.sender, t.token.denom) = (account, denom) then left else l.balance account denom := by
  unfold balance record
  rw [Table.get?_insert]
  split <;> rfl

theorem nextSequence_record (route : Route) : (l.record t left).nextSequence route =
    if t.route = route then l.nextSequence route + 1 else l.nextSequence route := by
  unfold nextSequence record
  rw [Table.get?_insert]
  split
  · rename_i h
    rw [← h]
    rfl
  · rfl

/-- A packet in the books was there before, or it is the one that was just sent. -/
theorem mem_packets_record {p : (String × UInt64) × Transfer} (h : p ∈ (l.record t left).packets.entries) :
    p = ((t.route.channel, l.nextSequence t.route), t) ∨ p ∈ l.packets.entries :=
  Table.mem_of_mem_insertEntry h

theorem get?_packets_record (key : String × UInt64) : (l.record t left).packets.get? key =
    if (t.route.channel, l.nextSequence t.route) = key then some t else l.packets.get? key :=
  Table.get?_insert ..

end Ledger

/-! ## Logs -/

/-- What keeps a log from being written once there are `more` logs than now: the service is out from so many logs on,
    or else the journal is closed. -/
inductive LogFault (out : Outage) (j : Journal) (more : Nat) : ChainError → Prop where
  | outage (h : out.logsFrom.any (· ≤ j.logs.length + more) = true) : LogFault out j more (.outage .logWrite)
  | closed (h : out.logsFrom.any (· ≤ j.logs.length + more) = false) (hc : j.closed = true) :
      LogFault out j more .logRefused

theorem not_logFault_none {j : Journal} {more : Nat} {e : ChainError} (h : j.closed = false) :
    ¬ LogFault .none j more e := by
  rintro (ho | ⟨-, hc⟩)
  · cases ho
  · rw [h] at hc
    cases hc

namespace Chain

variable {c : Chain} {out : Outage} {log : Log}

theorem addLog_of_fault {e : ChainError} (h : LogFault out c.journal 0 e) : c.addLog out log = .error e := by
  unfold addLog
  cases h with
  | outage h => exact if_pos h
  | closed h hc =>
    rw [Nat.add_zero] at h
    rw [if_neg (by rw [h]; exact Bool.false_ne_true)]
    unfold Journal.add
    rw [if_pos hc]
    rfl

theorem addLog_of_writable (h : ∀ e, ¬ LogFault out c.journal 0 e) :
    c.addLog out log = .ok { c with journal.logs := c.journal.logs ++ [log] } := by
  unfold addLog
  have ho : out.logsFrom.any (· ≤ c.journal.logs.length) = false := by
    rw [Bool.eq_false_iff]
    exact fun ho => h _ (.outage ho)
  have hc : c.journal.closed = false := by
    rw [Bool.eq_false_iff]
    exact fun hc => h _ (.closed ho hc)
  rw [if_neg (by rw [ho]; exact Bool.false_ne_true)]
  unfold Journal.add
  rw [if_neg (by rw [hc]; exact Bool.false_ne_true)]
  rfl

end Chain

/-- A log that was written counts as one of those before the next. -/
theorem logFault_after {out : Outage} {j : Journal} {log : Log} {e : ChainError} :
    LogFault out { j with logs := j.logs ++ [log] } 0 e ↔ LogFault out j 1 e := by
  have hlen : (j.logs ++ [log]).length + 0 = j.logs.length + 1 := List.length_append ..
  constructor
  · rintro (h | ⟨h, hc⟩)
    · exact .outage (hlen ▸ h)
    · exact .closed (hlen ▸ h) hc
  · rintro (h | ⟨h, hc⟩)
    · exact .outage (hlen.symm ▸ h)
    · exact .closed (hlen.symm ▸ h) hc

end RemoteStaking
