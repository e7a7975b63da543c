import RemoteStaking.Proofs.Transfer.Grammar
import RemoteStaking.Transfer.Check

/-!
# `RemoteStaking.Proofs.Transfer.Rules` — the rules for transfers, in their order

A transfer is looked at part by part, and the first part that is not as it has to be is reported. The parts come down to
eight rules, each said here of the transfer itself: of the characters of its names and texts, and of what the decoder for
names of accounts makes of its sender.

## Contents
- **`Transfer.Rule`**, `Rule.inOrder`: the rules and their order. **`Rule.Holds`**: what each of them says.
  **`Rule.Breaks`**: what is reported if it does not hold.
- **One rule.** `Rule.check` looks at it alone: `Rule.check_eq_ok_iff`, `Rule.check_eq_error_iff`.
- **All rules.** `check_eq_forM`: a transfer is checked rule by rule. `check_eq_ok_iff`, `check_eq_error_iff_earlier`, with
  `check_eq_badDenom_iff` and `check_eq_badSender_iff` for two of the rules. **`check_reports_first`**.
-/

namespace RemoteStaking.Transfer

/-! ## The rules -/

/-- What a transfer has to satisfy. -/
inductive Rule where
  | port
  | channel
  | denom
  | amount
  | sender
  | receiver
  | receiverLength
  | memoLength
deriving DecidableEq

/-- The rules in the order in which they are looked at. -/
def Rule.inOrder : List Rule :=
  [.port, .channel, .denom, .amount, .sender, .receiver, .receiverLength, .memoLength]

theorem Rule.mem_inOrder (r : Rule) : r ∈ inOrder := by
  cases r <;> decide

/-- **What a rule says.** -/
def Rule.Holds (t : Transfer) : Rule → Prop
  | port => Identifies 2 128 t.route.port
  | channel => Identifies 8 64 t.route.channel
  | denom => Denominates t.token.denom
  | amount => 0 < t.token.amount.toNat
  | sender => ∃ hrp bs, Bech32.decode t.sender = .ok (hrp, bs)
  | receiver => IsWritten t.receiver
  | receiverLength => t.receiver.utf8ByteSize ≤ 2048
  | memoLength => t.memo.utf8ByteSize ≤ 32768

/-- **What is reported** if a rule does not hold. -/
inductive Rule.Breaks (t : Transfer) : Rule → TransferFlaw → Prop where
  | port {flaw : IdentifierFlaw} (h : IdentifierKind.port.Blames t.route.port flaw) :
      Breaks t .port (.badIdentifier .port t.route.port flaw)
  | channel {flaw : IdentifierFlaw} (h : IdentifierKind.channel.Blames t.route.channel flaw) :
      Breaks t .channel (.badIdentifier .channel t.route.channel flaw)
  | denom (h : ¬ Denominates t.token.denom) : Breaks t .denom (.badDenom t.token.denom)
  | amount (h : t.token.amount.toNat = 0) : Breaks t .amount .zeroAmount
  | sender {cause : Bech32.DecodeError} (h : Bech32.decode t.sender = .error cause) :
      Breaks t .sender (.badSender t.sender cause)
  | receiver (h : ¬ IsWritten t.receiver) : Breaks t .receiver .blankReceiver
  | receiverLength (h : 2048 < t.receiver.utf8ByteSize) :
      Breaks t .receiverLength (.longReceiver t.receiver.utf8ByteSize 2048)
  | memoLength (h : 32768 < t.memo.utf8ByteSize) : Breaks t .memoLength (.longMemo t.memo.utf8ByteSize 32768)

/-! ## One rule -/

/-- Look at one rule alone. -/
def Rule.check (t : Transfer) : Rule → Except TransferFlaw Unit
  | port => checkIdentifier .port t.route.port
  | channel => checkIdentifier .channel t.route.channel
  | denom => t.checkDenom
  | amount => t.checkAmount
  | sender => t.checkSender
  | receiver => if allBlank t.receiver then .error .blankReceiver else .ok ()
  | receiverLength =>
    if mostReceiver < t.receiver.utf8ByteSize then .error (.longReceiver t.receiver.utf8ByteSize mostReceiver)
    else .ok ()
  | memoLength => t.checkMemo

section OneRule

variable {t : Transfer} {r : Rule} {flaw : TransferFlaw}

theorem Rule.check_of_holds (h : r.Holds t) : r.check t = .ok () := by
  cases r with
  | port =>
    have hid : IdentifierKind.port.check t.route.port = .ok () := IdentifierKind.check_of_identifies h
    unfold Rule.check checkIdentifier
    rw [hid]
    rfl
  | channel =>
    have hid : IdentifierKind.channel.check t.route.channel = .ok () := IdentifierKind.check_of_identifies h
    unfold Rule.check checkIdentifier
    rw [hid]
    rfl
  | denom => exact if_pos (isDenom_iff.2 h)
  | amount => exact if_neg (Nat.ne_of_gt h)
  | sender =>
    obtain ⟨hrp, bs, hdecode⟩ := h
    unfold Rule.check checkSender
    rw [hdecode]
  | receiver => exact if_neg (by rw [allBlank_eq_false_iff.2 h]; exact Bool.false_ne_true)
  | receiverLength | memoLength => exact if_neg (Nat.not_lt.2 h)

theorem Rule.check_of_breaks (h : r.Breaks t flaw) : r.check t = .error flaw := by
  cases h with
  | port h | channel h =>
    unfold Rule.check checkIdentifier
    rw [IdentifierKind.check_of_blames h]
    rfl
  | denom h => exact if_neg (mt isDenom_iff.1 h)
  | amount h => exact if_pos h
  | sender h =>
    unfold Rule.check checkSender
    rw [h]
  | receiver h => exact if_pos (by simpa using mt allBlank_eq_false_iff.1 h)
  | receiverLength h | memoLength h => exact if_pos h

/-- A rule holds, or there is something to report. -/
theorem Rule.holds_or_breaks (t : Transfer) (r : Rule) : r.Holds t ∨ ∃ flaw, r.Breaks t flaw := by
  cases r with
  | port => exact (identifies_or_blames .port t.route.port).imp id fun ⟨_, h⟩ => ⟨_, .port h⟩
  | channel => exact (identifies_or_blames .channel t.route.channel).imp id fun ⟨_, h⟩ => ⟨_, .channel h⟩
  | denom => exact (Classical.em (Denominates t.token.denom)).imp id fun h => ⟨_, .denom h⟩
  | amount => exact (Nat.eq_zero_or_pos t.token.amount.toNat).symm.imp id fun h => ⟨_, .amount h⟩
  | sender =>
    cases hdecode : Bech32.decode t.sender with
    | ok r => exact .inl ⟨r.1, r.2, hdecode⟩
    | error cause => exact .inr ⟨_, .sender hdecode⟩
  | receiver => exact (Classical.em (IsWritten t.receiver)).imp id fun h => ⟨_, .receiver h⟩
  | receiverLength => exact (Nat.lt_or_ge 2048 t.receiver.utf8ByteSize).symm.imp id fun h => ⟨_, .receiverLength h⟩
  | memoLength => exact (Nat.lt_or_ge 32768 t.memo.utf8ByteSize).symm.imp id fun h => ⟨_, .memoLength h⟩

theorem Rule.check_eq_ok_iff : r.check t = .ok () ↔ r.Holds t := by
  constructor
  · intro h
    rcases Rule.holds_or_breaks t r with hr | ⟨flaw, hflaw⟩
    · exact hr
    · rw [Rule.check_of_breaks hflaw] at h
      cases h
  · exact Rule.check_of_holds

theorem Rule.check_eq_error_iff : r.check t = .error flaw ↔ r.Breaks t flaw := by
  constructor
  · intro h
    rcases Rule.holds_or_breaks t r with hr | ⟨flaw', hflaw⟩
    · rw [Rule.check_of_holds hr] at h
      cases h
    · rw [Rule.check_of_breaks hflaw] at h
      cases h
      exact hflaw
  · exact Rule.check_of_breaks

/-- What does not hold is reported, and nothing else is. -/
theorem Rule.not_holds_iff : ¬ r.Holds t ↔ ∃ flaw, r.Breaks t flaw := by
  constructor
  · exact (Rule.holds_or_breaks t r).resolve_left
  · rintro ⟨flaw, hflaw⟩ hr
    have hok := Rule.check_of_holds hr
    rw [Rule.check_of_breaks hflaw] at hok
    cases hok

end OneRule

/-! ## All rules -/

section InTurn

variable {α ε : Type} {f : α → Except ε Unit} {xs : List α} {e : ε}

theorem forM_eq_ok_iff : forM xs f = .ok () ↔ ∀ x ∈ xs, f x = .ok () := by
  induction xs with
  | nil => simp [pure, Except.pure]
  | cons x xs ih =>
    rw [List.forM_cons, List.forall_mem_cons, ← ih]
    cases hx : f x <;> simp [bind, Except.bind]

/-- Of checks made in turn the first one that fails is reported. -/
theorem forM_eq_error_iff : forM xs f = .error e ↔
    ∃ before x after, xs = before ++ x :: after ∧ (∀ y ∈ before, f y = .ok ()) ∧ f x = .error e := by
  induction xs with
  | nil => simp [pure, Except.pure]
  | cons x xs ih =>
    rw [List.forM_cons]
    cases hx : f x with
    | error e' =>
      constructor
      · intro h
        exact ⟨[], x, xs, rfl, by simp, hx.trans h⟩
      · rintro ⟨before, y, after, hsplit, hbefore, hy⟩
        cases before with
        | nil =>
          obtain ⟨rfl, rfl⟩ := List.cons.inj hsplit
          exact hx.symm.trans hy
        | cons z before =>
          obtain ⟨rfl, -⟩ := List.cons.inj hsplit
          have hok := hbefore x List.mem_cons_self
          rw [hx] at hok
          cases hok
    | ok u =>
      show forM xs f = .error e ↔ _
      rw [ih]
      constructor
      · rintro ⟨before, y, after, rfl, hbefore, hy⟩
        exact ⟨x :: before, y, after, rfl, List.forall_mem_cons.2 ⟨hx, hbefore⟩, hy⟩
      · rintro ⟨before, y, after, hsplit, hbefore, hy⟩
        cases before with
        | nil =>
          obtain ⟨rfl, rfl⟩ := List.cons.inj hsplit
          rw [hx] at hy
          cases hy
        | cons z before =>
          obtain ⟨rfl, rfl⟩ := List.cons.inj hsplit
          exact ⟨before, y, after, rfl, (List.forall_mem_cons.1 hbefore).2, hy⟩

end InTurn

/-- A transfer is checked rule by rule. -/
theorem check_eq_forM (t : Transfer) : t.check = forM Rule.inOrder fun r => r.check t := by
  have hreceiver : t.checkReceiver = (do Rule.receiver.check t; Rule.receiverLength.check t) := by
    unfold checkReceiver Rule.check
    cases allBlank t.receiver <;> rfl
  unfold Transfer.check
  rw [hreceiver]
  simp only [Rule.inOrder, List.forM_cons, List.forM_nil, bind_assoc, bind_pure_unit]
  rfl

theorem check_eq_ok_iff {t : Transfer} : t.check = .ok () ↔ ∀ r : Rule, r.Holds t := by
  rw [check_eq_forM]
  simp only [forM_eq_ok_iff, Rule.check_eq_ok_iff, Rule.mem_inOrder, true_imp_iff]

theorem check_eq_error_iff {t : Transfer} {flaw : TransferFlaw} : t.check = .error flaw ↔
    ∃ before r after, Rule.inOrder = before ++ r :: after ∧ (∀ r' ∈ before, r'.Holds t) ∧ r.Breaks t flaw := by
  rw [check_eq_forM]
  simp only [forM_eq_error_iff, Rule.check_eq_ok_iff, Rule.check_eq_error_iff]

/-- The rules that are looked at before a rule. -/
def Rule.earlier (r : Rule) : List Rule :=
  inOrder.takeWhile (· ≠ r)

/-- Every rule has one place in the order, so there is no choice of what stands before it. -/
theorem Rule.before_eq_earlier {before after : List Rule} {r : Rule} (h : inOrder = before ++ r :: after) :
    before = r.earlier := by
  have hnodup : (before ++ r :: after).Nodup := by
    rw [← h]
    decide
  have hout : ∀ r' ∈ before, decide (r' ≠ r) = true := by
    intro r' hr'
    have hne := (List.nodup_append.1 hnodup).2.2 r' hr' r List.mem_cons_self
    exact decide_eq_true hne
  have hself : (r :: after).takeWhile (· ≠ r) = [] := by simp
  rw [Rule.earlier, h, List.takeWhile_append_of_pos hout, hself, List.append_nil]

/-- What is reported is what breaks some rule while those before it hold. -/
theorem check_eq_error_iff_earlier {t : Transfer} {flaw : TransferFlaw} : t.check = .error flaw ↔
    ∃ r : Rule, (∀ r' ∈ r.earlier, r'.Holds t) ∧ r.Breaks t flaw := by
  rw [check_eq_error_iff]
  constructor
  · rintro ⟨before, r, after, hsplit, hbefore, hbreaks⟩
    rw [Rule.before_eq_earlier hsplit] at hbefore
    exact ⟨r, hbefore, hbreaks⟩
  · rintro ⟨r, hearlier, hbreaks⟩
    obtain ⟨before, after, hsplit⟩ := List.append_of_mem r.mem_inOrder
    rw [← Rule.before_eq_earlier hsplit] at hearlier
    exact ⟨before, r, after, hsplit, hearlier, hbreaks⟩

/-- What is wrong with a port or a channel is reported only where it is. -/
theorem check_ne_badIdentifier {t : Transfer} (hport : Rule.port.Holds t) (hchannel : Rule.channel.Holds t)
    (kind : IdentifierKind) (id : String) (flaw : IdentifierFlaw) : t.check ≠ .error (.badIdentifier kind id flaw) := by
  intro h
  obtain ⟨r, -, hbreaks⟩ := check_eq_error_iff_earlier.1 h
  cases hbreaks with
  | port hflaw => exact Rule.not_holds_iff.2 ⟨_, .port hflaw⟩ hport
  | channel hflaw => exact Rule.not_holds_iff.2 ⟨_, .channel hflaw⟩ hchannel

theorem check_eq_badDenom_iff {t : Transfer} {denom : String} : t.check = .error (.badDenom denom) ↔
    Rule.port.Holds t ∧ Rule.channel.Holds t ∧ ¬ Denominates t.token.denom ∧ denom = t.token.denom := by
  rw [check_eq_error_iff_earlier]
  constructor
  · rintro ⟨r, hearlier, hbreaks⟩
    cases hbreaks with
    | denom h => exact ⟨hearlier .port (by decide), hearlier .channel (by decide), h, rfl⟩
  · rintro ⟨hport, hchannel, h, rfl⟩
    have hearlier : Rule.denom.earlier = [.port, .channel] := by decide
    refine ⟨.denom, ?_, .denom h⟩
    rw [hearlier]
    simp only [List.forall_mem_cons]
    exact ⟨hport, hchannel, nofun⟩

theorem check_eq_badSender_iff {t : Transfer} {sender : String} {cause : Bech32.DecodeError} :
    t.check = .error (.badSender sender cause) ↔ Rule.port.Holds t ∧ Rule.channel.Holds t ∧
      Denominates t.token.denom ∧ 0 < t.token.amount.toNat ∧ sender = t.sender ∧
      Bech32.decode t.sender = .error cause := by
  rw [check_eq_error_iff_earlier]
  constructor
  · rintro ⟨r, hearlier, hbreaks⟩
    cases hbreaks with
    | sender h =>
      exact ⟨hearlier .port (by decide), hearlier .channel (by decide), hearlier .denom (by decide),
        hearlier .amount (by decide), rfl, h⟩
  · rintro ⟨hport, hchannel, hdenom, hamount, rfl, h⟩
    have hearlier : Rule.sender.earlier = [.port, .channel, .denom, .amount] := by decide
    refine ⟨.sender, ?_, .sender h⟩
    rw [hearlier]
    simp only [List.forall_mem_cons]
    exact ⟨hport, hchannel, hdenom, hamount, nofun⟩

/-- **The first rule that does not hold is reported.** A transfer passes if and only if all rules hold. It is refused with
    a flaw if and only if this is what is reported for some rule that does not hold while those before it do. -/
theorem check_reports_first (t : Transfer) :
    (t.check = .ok () ↔ ∀ r : Rule, r.Holds t) ∧
    ∀ flaw, t.check = .error flaw ↔ ∃ before r after, Rule.inOrder = before ++ r :: after ∧
      (∀ r' ∈ before, r'.Holds t) ∧ ¬ r.Holds t ∧ r.Breaks t flaw := by
  refine ⟨check_eq_ok_iff, fun flaw => ?_⟩
  rw [check_eq_error_iff]
  constructor
  · rintro ⟨before, r, after, hsplit, hbefore, hbreaks⟩
    exact ⟨before, r, after, hsplit, hbefore, Rule.not_holds_iff.2 ⟨flaw, hbreaks⟩, hbreaks⟩
  · rintro ⟨before, r, after, hsplit, hbefore, -, hbreaks⟩
    exact ⟨before, r, after, hsplit, hbefore, hbreaks⟩

end RemoteStaking.Transfer
