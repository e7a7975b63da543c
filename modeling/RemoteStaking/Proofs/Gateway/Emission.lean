import RemoteStaking.Gateway.Emission
import RemoteStaking.Proofs.Abi.RoundTrip
import RemoteStaking.Proofs.Chain.Sending

/-!
# `RemoteStaking.Proofs.Gateway.Emission` — logs are read back

A log has what an event declares in two parts. What is indexed is found in the topics; the rest is written to the data,
one value after the other, and whoever knows the declaration reads it back. The law for one log is the same for every
event, as long as the values that are written are of the kinds that the event declares.

## Contents
- **Words.** Amounts and numbers of packets are not mixed up in a word: `Amount.toWord_inj`, `sequenceWord_inj`.
- **Emissions.** `Emitter.eventLog`, `Emitter.emit_eq_ok_iff`: an emission writes one log, exactly if the journal takes it.
- **`Log.Tells`**: what is found in a log. `Emitter.tells_eventLog`: that is what was to be written.
- **The events of the gateway.** `fits_transferValues`, `Action.fits_values`: what is written is of the declared kinds.
  `transferValues_inj`, `Action.values_inj`: and it is not mixed up.
- **`Emitter.logs_read_back`**, for transfers and for both actions.
-/

namespace RemoteStaking

open Abi (Value)

/-! ## Words -/

theorem Amount.toNat_toWord (a : Amount) : a.toWord.toNat = a.toNat := by
  have hbound : Amount.bound < 2 ^ 256 := by decide
  rw [toWord, BitVec.toNat_ofNat]
  exact Nat.mod_eq_of_lt (Nat.lt_trans a.toNat_lt hbound)

theorem Amount.toWord_inj {a b : Amount} : a.toWord = b.toWord ↔ a = b := by
  constructor
  · intro h
    apply Amount.ext
    rw [← a.toNat_toWord, h, b.toNat_toWord]
  · exact congrArg toWord

theorem toNat_sequenceWord (n : UInt64) : (sequenceWord n).toNat = n.toNat := by
  have hbound : UInt64.size < 2 ^ 256 := by decide
  rw [sequenceWord, BitVec.toNat_ofNat]
  exact Nat.mod_eq_of_lt (Nat.lt_trans n.toNat_lt_size hbound)

theorem sequenceWord_inj {m n : UInt64} : sequenceWord m = sequenceWord n ↔ m = n := by
  constructor
  · intro h
    apply UInt64.toNat_inj.1
    rw [← toNat_sequenceWord, h, toNat_sequenceWord]
  · exact congrArg sequenceWord

/-! ## Emissions -/

/-- The chain with one more log. -/
def Chain.logged (c : Chain) (log : Log) : Chain :=
  { c with journal.logs := c.journal.logs ++ [log] }

theorem Chain.logged_inj {c : Chain} {log log' : Log} : c.logged log = c.logged log' ↔ log = log' := by
  constructor
  · intro h
    have hlogs : c.journal.logs ++ [log] = c.journal.logs ++ [log'] := congrArg (·.journal.logs) h
    exact List.singleton_inj.1 (List.append_cancel_left hlogs)
  · exact congrArg c.logged

/-- What is found in a log of an event: who wrote it and when, the topics that name the event and hold what is indexed,
    and the values that are read from its data as the event declares them. -/
structure Log.Tells (log : Log) (e : Emitter) (event : Abi.Event) (topics : List (List UInt8)) (values : List Value) :
    Prop where
  address : log.address = e.address
  height : log.height = e.height
  topics : log.topics = event.topic :: topics
  data : Abi.decode event.dataKinds log.data = .ok values

namespace Emitter

/-- The log of an event with its topics and its values. -/
def eventLog (e : Emitter) (event : Abi.Event) (topics : List (List UInt8)) (values : List Value) : Log where
  address := e.address
  topics := event.topic :: topics
  data := Abi.encode values
  height := e.height

section Emissions

variable {e : Emitter} {out : Outage} {event : Abi.Event} {name : String} {topics : List (List UInt8)}
  {values : List Value} {c : Chain} {log : Log}

theorem emit_of_event (h : e.interface.event name = .ok event) : e.emit out name topics values c =
    (c.addLog out (e.eventLog event topics values)).mapError fun err => .notEmitted name (.notWritten err) := by
  unfold Emitter.emit Emitter.log
  rw [h]
  rfl

/-- **An emission writes one log** of a declared event, exactly if the journal takes it. -/
theorem emit_eq_ok_iff (h : e.interface.event name = .ok event) :
    e.emit out name topics values c = .ok (c.logged log) ↔
      (∀ err, ¬ LogFault out c.journal 0 err) ∧ log = e.eventLog event topics values := by
  rw [emit_of_event h]
  constructor
  · intro hok
    have hwritable : ∀ err, ¬ LogFault out c.journal 0 err := by
      intro err hfault
      rw [Chain.addLog_of_fault hfault] at hok
      cases hok
    rw [Chain.addLog_of_writable hwritable] at hok
    exact ⟨hwritable, (Chain.logged_inj.1 (Except.ok.inj hok)).symm⟩
  · rintro ⟨hwritable, rfl⟩
    rw [Chain.addLog_of_writable hwritable]
    rfl

/-- The values are found in the log if they are of the declared kinds. -/
theorem tells_eventLog (h : List.Forall₂ Value.Fits values event.dataKinds) (hlen : (Abi.encode values).length < 2 ^ 32) :
    (e.eventLog event topics values).Tells e event topics values where
  address := rfl
  height := rfl
  topics := rfl
  data := by
    have hread : Abi.decode event.dataKinds (Abi.encode values ++ []) = .ok values := Abi.decode_encode h hlen []
    rwa [List.append_nil] at hread

end Emissions

end Emitter

/-! ## The events of the gateway -/

theorem fits_transferValues (t : Transfer) (n : UInt64) :
    List.Forall₂ Value.Fits (transferValues t n) transferEvent.dataKinds :=
  .cons (.string _) (.cons (.string _) (.cons (.string _) (.cons (.uint _ 256) (.cons (.string _)
    (.cons (.uint _ 64) .nil)))))

theorem Action.fits_values (action : Action) (req : Request) :
    List.Forall₂ Value.Fits (action.values req) action.event.dataKinds := by
  cases action with
  | liquidStake => exact .cons (.uint _ 256) .nil
  | redeem => exact .cons (.string _) (.cons (.uint _ 256) .nil)

example : transferEvent.dataKinds = [.string, .string, .string, .uint 256, .string, .uint 64] := rfl

example : redeemEvent.topic = Hash.keccak256 (utf8 "Redeem(address,address,string,uint256)") := rfl

/-- Transfers with the same values go over the same route, with the same token and memo, as packets of one number. -/
theorem transferValues_inj {t t' : Transfer} {n n' : UInt64} (h : transferValues t n = transferValues t' n') :
    t.route = t'.route ∧ t.token = t'.token ∧ t.memo = t'.memo ∧ n = n' := by
  obtain ⟨⟨port, channel⟩, ⟨denom, amount⟩, _, _, _, _, memo⟩ := t
  obtain ⟨⟨port', channel'⟩, ⟨denom', amount'⟩, _, _, _, _, memo'⟩ := t'
  simp only [transferValues, List.cons.injEq, Value.string.injEq, Value.uint.injEq, Amount.toWord_inj,
    sequenceWord_inj, and_true] at h
  obtain ⟨rfl, rfl, rfl, rfl, rfl, rfl⟩ := h
  exact ⟨rfl, rfl, rfl, rfl⟩

theorem Action.values_inj {action : Action} {req req' : Request} (h : action.values req = action.values req') :
    req.amount = req'.amount ∧ (action = .redeem → req.receiver = req'.receiver) := by
  cases action with
  | liquidStake =>
    simp only [Action.values, List.cons.injEq, Value.uint.injEq, Amount.toWord_inj, and_true] at h
    exact ⟨h, nofun⟩
  | redeem =>
    simp only [Action.values, List.cons.injEq, Value.string.injEq, Value.uint.injEq, Amount.toWord_inj, and_true] at h
    exact ⟨h.2, fun _ => h.1⟩

namespace Emitter

section Gateway

variable {e : Emitter} {out : Outage} {sender : Address} {c : Chain} {log : Log}

theorem transfer_eq_ok_iff {t : Transfer} {n : UInt64} (he : e.interface = gatewayInterface) :
    e.transfer out sender t n c = .ok (c.logged log) ↔ (∀ err, ¬ LogFault out c.journal 0 err) ∧
      log = e.eventLog transferEvent [addressTopic sender, textTopic t.receiver] (transferValues t n) := by
  apply emit_eq_ok_iff
  rw [he]
  rfl

theorem action_eq_ok_iff {action : Action} {req : Request} (he : e.interface = gatewayInterface) :
    e.action out action sender req c = .ok (c.logged log) ↔ (∀ err, ¬ LogFault out c.journal 0 err) ∧
      log = e.eventLog action.event [addressTopic sender, addressTopic req.token] (action.values req) := by
  apply emit_eq_ok_iff
  rw [he]
  cases action <;> rfl

end Gateway

/-- **Logs are read back.** A journal that takes logs gets one for each emission, and what was emitted is found in it: the
    signature of the event, the sender and the receiver's digest or the token in the topics, and all the rest in the
    data. So two logs of one event with the same data, whoever wrote them, tell of the same things there. -/
theorem logs_read_back {e : Emitter} (he : e.interface = gatewayInterface) {out : Outage} {c : Chain}
    (hwritable : ∀ err, ¬ LogFault out c.journal 0 err) (sender : Address) :
    (∀ (t : Transfer) (n : UInt64), ∃ log, e.transfer out sender t n c = .ok (c.logged log) ∧
      (log.data.length < 2 ^ 32 → log.Tells e transferEvent
        [List.replicate 12 0 ++ sender.bytes, Hash.keccak256 (utf8 t.receiver)]
        [.string t.route.port, .string t.route.channel, .string t.token.denom,
         .uint (BitVec.ofNat 256 t.token.amount.toNat), .string t.memo, .uint (BitVec.ofNat 256 n.toNat)])) ∧
    (∀ req : Request, ∃ log, e.action out .liquidStake sender req c = .ok (c.logged log) ∧
      log.Tells e liquidStakeEvent [List.replicate 12 0 ++ sender.bytes, List.replicate 12 0 ++ req.token.bytes]
        [.uint (BitVec.ofNat 256 req.amount.toNat)]) ∧
    (∀ req : Request, ∃ log, e.action out .redeem sender req c = .ok (c.logged log) ∧
      (log.data.length < 2 ^ 32 → log.Tells e redeemEvent
        [List.replicate 12 0 ++ sender.bytes, List.replicate 12 0 ++ req.token.bytes]
        [.string req.receiver, .uint (BitVec.ofNat 256 req.amount.toNat)])) ∧
    ∀ e' : Emitter, e'.interface = gatewayInterface → ∀ (out' : Outage) (c' : Chain) (sender' : Address) (log log' : Log),
      log.data.length < 2 ^ 32 → log.data = log'.data →
      (∀ (t t' : Transfer) (n n' : UInt64), e.transfer out sender t n c = .ok (c.logged log) →
        e'.transfer out' sender' t' n' c' = .ok (c'.logged log') →
        t.route = t'.route ∧ t.token = t'.token ∧ t.memo = t'.memo ∧ n = n') ∧
      ∀ (action : Action) (req req' : Request), e.action out action sender req c = .ok (c.logged log) →
        e'.action out' action sender' req' c' = .ok (c'.logged log') →
        req.amount = req'.amount ∧ (action = .redeem → req.receiver = req'.receiver) := by
  refine ⟨?_, ?_, ?_, ?_⟩
  · intro t n
    exact ⟨_, (transfer_eq_ok_iff he).2 ⟨hwritable, rfl⟩, tells_eventLog (fits_transferValues t n)⟩
  · intro req
    have hlen : (Abi.encode (Action.liquidStake.values req)).length < 2 ^ 32 := by
      rw [Abi.length_encode (Action.liquidStake.fits_values req)]
      show 32 * 1 + 0 < 2 ^ 32
      decide
    exact ⟨_, (action_eq_ok_iff he).2 ⟨hwritable, rfl⟩, tells_eventLog (Action.liquidStake.fits_values req) hlen⟩
  · intro req
    exact ⟨_, (action_eq_ok_iff he).2 ⟨hwritable, rfl⟩, tells_eventLog (Action.redeem.fits_values req)⟩
  · intro e' he' out' c' sender' log log' hlen hdata
    constructor
    · intro t t' n n' h h'
      obtain ⟨-, rfl⟩ := (transfer_eq_ok_iff he).1 h
      obtain ⟨-, rfl⟩ := (transfer_eq_ok_iff he').1 h'
      exact transferValues_inj
        (Abi.encode_inj (fits_transferValues t n) (fits_transferValues t' n') hlen hdata)
    · intro action req req' h h'
      obtain ⟨-, rfl⟩ := (action_eq_ok_iff he).1 h
      obtain ⟨-, rfl⟩ := (action_eq_ok_iff he').1 h'
      exact Action.values_inj
        (Abi.encode_inj (action.fits_values req) (action.fits_values req') hlen hdata)

/-- A contract that logs in a block. -/
def sampleEmitter : Emitter :=
  ⟨gatewayInterface, ⟨List.replicate 20 9, by decide⟩, 12345⟩

/-- A transfer with a memo that is an empty document. -/
def emittedTransfer : Transfer :=
  .along ⟨"transfer", "channel-25"⟩ ⟨"aevmos", ⟨1000, by decide⟩⟩ "evmos1sender" "stride1receiver" "\x7b\x7d"

/-- The first log of a chain is read back. -/
theorem emittedTransfer_read_back :
    sampleEmitter.interface = gatewayInterface ∧ (∀ err, ¬ LogFault .none Chain.empty.journal 0 err) ∧
    ∃ log, sampleEmitter.transfer .none sampleEmitter.address emittedTransfer 7 .empty =
        .ok (Chain.empty.logged log) ∧
      Abi.decode transferEvent.dataKinds log.data =
        .ok [.string "transfer", .string "channel-25", .string "aevmos", .uint 1000, .string "\x7b\x7d", .uint 7] := by
  have hwritable : ∀ err, ¬ LogFault .none Chain.empty.journal 0 err := fun _ => not_logFault_none rfl
  obtain ⟨htransfer, -⟩ := logs_read_back (e := sampleEmitter) rfl hwritable sampleEmitter.address
  obtain ⟨log, hlog, htells⟩ := htransfer emittedTransfer 7
  have hlen : log.data.length < 2 ^ 32 := by
    obtain ⟨-, rfl⟩ := (transfer_eq_ok_iff rfl).1 hlog
    decide +kernel
  exact ⟨rfl, hwritable, log, hlog, (htells hlen).data⟩

end Emitter

end RemoteStaking
