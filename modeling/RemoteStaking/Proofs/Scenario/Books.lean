import Mathlib.Data.List.Basic
import RemoteStaking.Proofs.Scenario.Runs

/-!
# `RemoteStaking.Proofs.Scenario.Books` — the books of a whole run

What is in the ledger and the journal after a run can be told from what came of its steps alone: the packets are those of
the calls that sent one, in the order of the calls and numbered from one on, and so are the logs.

The books are kept by channel and number, so that no packet is lost rests on the numbers: the next one is always one more
than there are packets, which is a part of the invariant (`Keeps`).

## Contents
- **`Order`**, `Order.message`, `Order.logs`: what a call asks for, the transfer for it and the logs about it.
- **`Entry`**: a step with what came of it. `Entry.isAnswered`, `isUnlogged`, `isSent`, `isRefused`, and `numbered`.
- **`Keeps`**: the books agree with a history. **`keeps_step`**, **`keeps_after`**.
- **`books_of_run`**.
-/

namespace RemoteStaking

/-! ## Orders -/

/-- What is asked for, and where and when. -/
structure Order where
  env : Circumstances
  action : Action
  req : Request

namespace Order

/-- The transfer for an order, of the token that is registered under the denomination of the action. -/
def message (g : Gateway) (o : Order) : Transfer :=
  g.draft o.env o.action o.req (o.action.denom g.config)

/-- The two logs about an order whose packet has the given number. -/
def logs (g : Gateway) (n : UInt64) (o : Order) : List Log :=
  g.newLogs o.env o.action o.req (o.message g) n

end Order

/-- The receipt names the number, in its data and as a text. -/
def Receipt.Names (r : Receipt) (n : UInt64) : Prop :=
  r.data = Abi.encode [.uint (sequenceWord n), .bool true] ∧ ("sequence", toString n) ∈ r.attributes

/-- What comes of a call of the given course. -/
def Course.outcome (closed : Bool) (n : UInt64) (k : Course) : Except Scenario.Failure Scenario.Outcome :=
  ((k.reply closed n).map .receipt).mapError .gateway

namespace Scenario

/-- The order in a step, if it is a call that can be read. -/
def Step.order? (a : Step) : Option Order :=
  a.visit?.bind fun v => v.call.request?.map fun (action, req) => ⟨⟨v.block, v.frame, .none⟩, action, req⟩

/-! ## Entries -/

/-- A step with what came of it. -/
abbrev Entry := Step × Except Failure Outcome

namespace Entry

/-- A call that was answered. -/
def isAnswered (e : Entry) : Bool :=
  e.1.visit?.isSome && e.2.isOk

/-- A call that failed because a log was not written. -/
def isUnlogged (e : Entry) : Bool :=
  e.1.visit?.isSome && match e.2 with
    | .error (.gateway (.notEmitted _ _)) => true
    | _ => false

/-- A call whose transfer was refused. -/
def isRefused (e : Entry) : Bool :=
  e.1.visit?.isSome && match e.2 with
    | .error (.gateway (.transferFailed _)) => true
    | _ => false

/-- A call that came to be sent. -/
def isSent (e : Entry) : Bool :=
  e.isAnswered || e.isUnlogged

/-- The logs about the call if it was answered, when its packet has the given number. -/
def logs (g : Gateway) (n : Nat) (e : Entry) : List Log :=
  if e.isAnswered then (e.1.order?.map (Order.logs g (.ofNat n))).getD [] else []

end Entry

/-- The calls that came to be sent, numbered from one on. -/
def numbered (h : List Entry) : List (Entry × Nat) :=
  (h.filter Entry.isSent).zipIdx 1

/-- The step leaves the gateway as it is, puts nothing out of order, and sends nothing past the gateway. -/
def Step.isOrderly : Step → Bool
  | .configure _ | .setOutage _ | .send _ => false
  | _ => true

/-- **The books agree with a history.** -/
structure Books (g : Gateway) (h : List Entry) (c : Chain) : Prop where
  /-- The packets are the messages of the calls that came to be sent, in order, numbered from one on. -/
  packets : c.ledger.sent.map (fun (n, t) => (n.toNat, some t)) =
    (numbered h).map fun (e, n) => (n, e.1.order?.map (Order.message g))
  /-- Each call that was answered got a receipt with the number of its packet. -/
  receipts : ∀ e n, (e, n) ∈ numbered h → e.isAnswered = true → ∃ r, e.2 = .ok (.receipt r) ∧ r.Names (.ofNat n)
  /-- The logs are those of the calls that were answered, in order. -/
  logs : c.journal.logs = (numbered h).flatMap fun (e, n) => e.logs g n
  /-- Each call that was answered has two logs. -/
  logCount : c.journal.logs.length = 2 * h.countP Entry.isAnswered
  /-- The refusals are the calls that failed at sending. -/
  refused : c.ledger.refused = h.countP Entry.isRefused

/-! ## The invariant -/

/-- The books agree with a history, and the next packet goes on where they end. -/
structure Keeps (g : Gateway) (h : List Entry) (s : Scenario) : Prop where
  gateway : s.gateway = g
  inOrder : s.out = .none
  keyed : s.chain.Keyed
  number : (s.chain.ledger.nextSequence g.config.route).toNat = (h.filter Entry.isSent).length + 1
  entries : s.chain.ledger.packets.entries.map (fun p => (p.1.1, p.1.2.toNat, some p.2)) =
    (numbered h).map fun (e, n) => (g.config.route.channel, n, e.1.order?.map (Order.message g))
  books : Books g h s.chain

theorem keyLe_of_le {p q : String × UInt64} (hchannel : p.1 = q.1) (hle : p.2.toNat ≤ q.2.toNat) :
    Ledger.keyLe p q = true := by
  unfold Ledger.keyLe
  rw [if_pos (congrArg String.utf8ByteSize hchannel), if_pos hchannel]
  exact decide_eq_true (UInt64.le_iff_toNat_le.2 hle)

/-- Packets that were put down over one channel, in the order of their numbers, are listed in that order. -/
theorem sent_of_entries {g : Gateway} {h : List Entry} {l : Ledger}
    (heq : l.packets.entries.map (fun p => (p.1.1, p.1.2.toNat, some p.2)) =
      (numbered h).map fun (e, n) => (g.config.route.channel, n, e.1.order?.map (Order.message g))) :
    l.sent.map (fun (n, t) => (n.toNat, some t)) =
      (numbered h).map fun (e, n) => (n, e.1.order?.map (Order.message g)) := by
  have hnumbers : (numbered h).Pairwise fun e e' => e.2 ≤ e'.2 := by
    rw [← List.pairwise_map (f := Prod.snd) (R := (· ≤ ·)), numbered, List.zipIdx_map_snd]
    exact List.pairwise_le_range'
  -- the entries are in order already, so that listing them does not move any
  have hentries : (l.packets.entries.map fun p => (p.1.1, p.1.2.toNat, some p.2)).Pairwise
      fun p q => p.1 = q.1 ∧ p.2.1 ≤ q.2.1 := by
    rw [heq, List.pairwise_map]
    exact hnumbers.imp fun hle => ⟨rfl, hle⟩
  have hsorted : l.packets.entries.mergeSort (fun p q => Ledger.keyLe p.1 q.1) = l.packets.entries :=
    List.mergeSort_of_pairwise ((List.pairwise_map.1 hentries).imp fun ⟨hchannel, hle⟩ => keyLe_of_le hchannel hle)
  calc l.sent.map (fun (n, t) => (n.toNat, some t))
      = (l.packets.entries.map fun p => (p.1.1, p.1.2.toNat, some p.2)).map Prod.snd := by
        rw [Ledger.sent, hsorted, List.map_map, List.map_map]
        rfl
    _ = (numbered h).map fun (e, n) => (n, e.1.order?.map (Order.message g)) := by
        rw [heq, List.map_map]
        rfl

variable {g : Gateway} {h : List Entry} {e : Entry} {s : Scenario} {a : Step} {v : Visit}

/-- What comes later gets later numbers. -/
theorem numbered_append (h h' : List Entry) :
    numbered (h ++ h') = numbered h ++ (h'.filter Entry.isSent).zipIdx (1 + (h.filter Entry.isSent).length) := by
  unfold numbered
  rw [List.filter_append, List.zipIdx_append]

theorem numbered_concat_of_unsent (hsent : e.isSent = false) : numbered (h ++ [e]) = numbered h := by
  rw [numbered_append, List.filter_cons_of_neg (Bool.eq_false_iff.1 hsent)]
  exact List.append_nil _

theorem numbered_concat_of_sent (hsent : e.isSent = true) :
    numbered (h ++ [e]) = numbered h ++ [(e, (h.filter Entry.isSent).length + 1)] := by
  rw [numbered_append, List.filter_cons_of_pos hsent, Nat.add_comm]
  rfl

theorem isAnswered_of_unsent (hsent : e.isSent = false) : e.isAnswered = false :=
  (Bool.or_eq_false_iff.1 hsent).1

/-- **A step by which nothing is sent** adds no packet and no log, and at most a refusal. -/
theorem keeps_of_unsent {s' : Scenario} (hk : Keeps g h s) (hsent : e.isSent = false) (hgateway : s'.gateway = s.gateway)
    (hout : s'.out = s.out) (hkeyed : s'.chain.Keyed)
    (hkept : Kept { s.chain with ledger.refused := s.chain.ledger.refused + if e.isRefused then 1 else 0 } s'.chain) :
    Keeps g (h ++ [e]) s' := by
  obtain ⟨hpackets, hnext, hrefused, hlogs⟩ := hkept
  have hentries : s'.chain.ledger.packets.entries.map (fun p => (p.1.1, p.1.2.toNat, some p.2)) =
      (numbered (h ++ [e])).map fun (e, n) => (g.config.route.channel, n, e.1.order?.map (Order.message g)) := by
    rw [hpackets, numbered_concat_of_unsent hsent]
    exact hk.entries
  constructor
  case gateway => exact hgateway.trans hk.gateway
  case inOrder => exact hout.trans hk.inOrder
  case keyed => exact hkeyed
  case entries => exact hentries
  case number =>
    rw [Ledger.nextSequence, hnext, List.filter_append, List.filter_cons_of_neg (Bool.eq_false_iff.1 hsent),
      List.filter_nil, List.append_nil]
    exact hk.number
  case books =>
    constructor
    case packets => exact sent_of_entries hentries
    case receipts =>
      rw [numbered_concat_of_unsent hsent]
      exact hk.books.receipts
    case logs =>
      rw [hlogs, numbered_concat_of_unsent hsent]
      exact hk.books.logs
    case logCount =>
      rw [hlogs, List.countP_append, List.countP_cons_of_neg (Bool.eq_false_iff.1 (isAnswered_of_unsent hsent)),
        List.countP_nil]
      exact hk.books.logCount
    case refused =>
      rw [hrefused, hk.books.refused, List.countP_append, List.countP_singleton]

/-- The next packet has a number that no packet has. -/
theorem fresh_of_keeps (hk : Keeps g h s) : ∀ p ∈ s.chain.ledger.packets.entries,
    p.1 ≠ (g.config.route.channel, s.chain.ledger.nextSequence g.config.route) := by
  intro p hp heq
  have hmem : (p.1.1, p.1.2.toNat, some p.2) ∈
      (numbered h).map fun (e, n) => (g.config.route.channel, n, e.1.order?.map (Order.message g)) := by
    rw [← hk.entries]
    exact List.mem_map.2 ⟨p, hp, rfl⟩
  obtain ⟨⟨e, n⟩, hen, hpn⟩ := List.mem_map.1 hmem
  have hlt : n < 1 + (h.filter Entry.isSent).length := List.snd_lt_add_of_mem_zipIdx hen
  have hn : n = p.1.2.toNat := congrArg (fun q => q.2.1) hpn
  rw [heq, hk.number] at hn
  omega

/-- **A call by which a packet is sent** adds that packet under the next number, with two logs if it is answered. -/
theorem keeps_of_sent {o : Order} {left : Amount} {grants : Table GrantKey Grant} {logs : List Log} (hk : Keeps g h s)
    (hroom : (h.filter Entry.isSent).length + 2 < UInt64.size) (hsent : e.isSent = true) (hrefused : e.isRefused = false)
    (horder : e.1.order? = some o)
    (hreceipt : e.isAnswered = true →
      ∃ r, e.2 = .ok (.receipt r) ∧ r.Names (s.chain.ledger.nextSequence g.config.route))
    (hlogs : logs = if e.isAnswered then o.logs g (s.chain.ledger.nextSequence g.config.route) else []) :
    Keeps g (h ++ [e])
      { s with
        chain.ledger := s.chain.ledger.record (o.message g) left
        chain.grants := grants
        chain.journal.logs := s.chain.journal.logs ++ logs } := by
  have hnumber : UInt64.ofNat ((h.filter Entry.isSent).length + 1) = s.chain.ledger.nextSequence g.config.route := by
    rw [← hk.number, UInt64.ofNat_toNat]
  have hentry : e.logs g ((h.filter Entry.isSent).length + 1) = logs := by
    rw [hlogs, Entry.logs, horder, hnumber]
    rfl
  have hroute : (o.message g).route = g.config.route := rfl
  have hentries : (s.chain.ledger.record (o.message g) left).packets.entries.map (fun p => (p.1.1, p.1.2.toNat, some p.2)) =
      (numbered (h ++ [e])).map fun (e, n) => (g.config.route.channel, n, e.1.order?.map (Order.message g)) := by
    -- the number is a new one, so the packet takes no other's place
    have hpackets : (s.chain.ledger.record (o.message g) left).packets.entries = s.chain.ledger.packets.entries ++
        [((g.config.route.channel, s.chain.ledger.nextSequence g.config.route), o.message g)] := by
      rw [← Table.insertEntry_of_fresh (fresh_of_keeps hk), ← hroute]
      rfl
    rw [hpackets, numbered_concat_of_sent hsent, List.map_append, List.map_append, hk.entries]
    simp only [List.map_cons, List.map_nil, hk.number, horder, Option.map_some]
  constructor
  case gateway => exact hk.gateway
  case inOrder => exact hk.inOrder
  case keyed => exact hk.keyed
  case entries => exact hentries
  case number =>
    rw [Ledger.nextSequence_record, if_pos hroute, List.filter_append, List.filter_cons_of_pos hsent,
      List.length_append, UInt64.toNat_add, hk.number]
    exact Nat.mod_eq_of_lt hroom
  case books =>
    constructor
    case packets => exact sent_of_entries hentries
    case receipts =>
      intro e' n hmem hanswered
      rw [numbered_concat_of_sent hsent] at hmem
      rcases List.mem_append.1 hmem with hmem | hmem
      · exact hk.books.receipts e' n hmem hanswered
      · cases List.mem_singleton.1 hmem
        rw [hnumber]
        exact hreceipt hanswered
    case logs =>
      rw [numbered_concat_of_sent hsent, List.flatMap_append, ← hk.books.logs]
      simp only [List.flatMap_cons, List.flatMap_nil, hentry, List.append_nil]
    case logCount =>
      rw [List.length_append, hlogs, hk.books.logCount, List.countP_append, List.countP_singleton]
      cases e.isAnswered <;> rfl
    case refused =>
      rw [List.countP_append, List.countP_cons_of_neg (Bool.eq_false_iff.1 hrefused), List.countP_nil]
      exact hk.books.refused

/-! ## Steps -/

theorem inOrder_step (ha : a.isOrderly = true) : (s.step a).2.out = s.out := by
  apply of_step (P := fun s' => s'.out = s.out) fun _ _ => rfl
  intro s' hquiet
  cases hquiet with
  | setOutage out => cases ha
  | _ => rfl

theorem isRegular_of_orderly (ha : a.isOrderly = true) : a.isRegular = true := by
  cases a with
  | configure config => cases ha
  | send t => cases ha
  | _ => rfl

/-- A step that is no call counts as nothing. -/
theorem Entry.of_quiet (hv : a.visit? = none) (r : Except Failure Outcome) :
    Entry.isSent (a, r) = false ∧ Entry.isRefused (a, r) = false := by
  simp only [isSent, isAnswered, isUnlogged, isRefused, hv, Option.isSome_none, Bool.false_and, Bool.or_false, and_self]

/-- A call that was stopped was neither sent nor refused. -/
theorem Entry.of_stopped {cause : GatewayError} (hearly : cause.isLate = false) (a : Step) (closed : Bool) (n : UInt64) :
    Entry.isSent (a, (Course.stopped cause).outcome closed n) = false ∧
      Entry.isRefused (a, (Course.stopped cause).outcome closed n) = false := by
  have hanswered : Entry.isAnswered (a, (Course.stopped cause).outcome closed n) = false := Bool.and_false _
  cases cause with
  | notEmitted event cause => cases hearly
  | transferFailed cause => cases hearly
  | _ => exact ⟨Bool.or_eq_false_iff.2 ⟨hanswered, Bool.and_false _⟩, Bool.and_false _⟩

theorem Entry.of_unsent (hv : a.visit? = some v) (cause : ChainError) (closed : Bool) (n : UInt64) :
    Entry.isSent (a, (Course.unsent cause).outcome closed n) = false ∧
      Entry.isRefused (a, (Course.unsent cause).outcome closed n) = true := by
  simp [isSent, isAnswered, isUnlogged, isRefused, hv, Course.outcome, Course.reply, Except.map, Except.mapError,
    Except.isOk, Except.toBool]

/-- A call by which a packet is sent counts as one, and is answered if the journal is open. -/
theorem Entry.of_sent (hv : a.visit? = some v) (closed : Bool) (n : UInt64) (action : Action) (req : Request) (p : Plan)
    (left : Amount) :
    Entry.isSent (a, (Course.sent action req p left).outcome closed n) = true ∧
      Entry.isRefused (a, (Course.sent action req p left).outcome closed n) = false ∧
      Entry.isAnswered (a, (Course.sent action req p left).outcome closed n) = !closed := by
  cases closed <;>
    simp [isSent, isAnswered, isUnlogged, isRefused, hv, Course.outcome, Course.reply, Except.map, Except.mapError,
      Except.isOk, Except.toBool]

/-- What a call does to a scenario in which nothing is out. -/
theorem step_of_course {k : Course} (hk : Keeps g h s) (hv : a.visit? = some v)
    (hcourse : g.course ⟨v.block, v.frame, .none⟩ v.call s.chain = k) :
    s.step a = (k.outcome s.chain.journal.closed (s.chain.ledger.nextSequence g.config.route),
      { s with chain := k.chainAfter g ⟨v.block, v.frame, .none⟩ s.chain }) := by
  have hanswer : s.gateway.answer (s.circumstances v.block v.frame) v.call s.chain =
      (k.reply s.chain.journal.closed (s.chain.ledger.nextSequence g.config.route),
        k.chainAfter g ⟨v.block, v.frame, .none⟩ s.chain) := by
    rw [circumstances, hk.inOrder, hk.gateway]
    exact Gateway.answer_of_course rfl hcourse
  rw [step_of_visit hv, hanswer]
  rfl

/-- The transfer that is sent is the message of the order in the step. -/
theorem order_of_sent {action : Action} {req : Request} {p : Plan} {left : Amount} (hk : Keeps g h s)
    (hv : a.visit? = some v)
    (hcourse : g.course ⟨v.block, v.frame, .none⟩ v.call s.chain = .sent action req p left) :
    a.order? = some ⟨⟨v.block, v.frame, .none⟩, action, req⟩ ∧
      Order.message g ⟨⟨v.block, v.frame, .none⟩, action, req⟩ = p.transfer := by
  obtain ⟨hreq, ⟨pair, hpair, -, ht⟩, -⟩ := Gateway.facts_of_sent hcourse
  rw [hk.keyed _ pair hpair] at ht
  constructor
  · rw [Step.order?, hv, Option.bind_some, hreq]
    rfl
  · exact ht.symm

/-- A call by which a packet is sent keeps the books, whether it can be logged or not. -/
theorem keeps_visit_of_sent {action : Action} {req : Request} {p : Plan} {left : Amount} (hk : Keeps g h s)
    (hv : a.visit? = some v) (hroom : (h.filter Entry.isSent).length + 2 < UInt64.size)
    (hcourse : g.course ⟨v.block, v.frame, .none⟩ v.call s.chain = .sent action req p left) :
    Keeps g (h ++ [(a, (s.step a).1)]) (s.step a).2 := by
  obtain ⟨horder, hmessage⟩ := order_of_sent hk hv hcourse
  obtain ⟨hsent, hrefused, hanswered⟩ := Entry.of_sent hv s.chain.journal.closed
    (s.chain.ledger.nextSequence g.config.route) action req p left
  rw [step_of_course hk hv hcourse]
  simp only [Course.chainAfter, Course.ledgerAfter, ← hmessage]
  apply keeps_of_sent hk hroom hsent hrefused horder
  · intro h
    rw [hanswered, Bool.not_eq_true'] at h
    rw [h]
    refine ⟨_, rfl, rfl, ?_⟩
    simp [Gateway.receipt]
  · rw [hanswered, Order.logs, hmessage]
    cases s.chain.journal.closed <;> rfl

/-- **A step keeps the books**, if there is a number left for another packet. -/
theorem keeps_step (hk : Keeps g h s) (ha : a.isOrderly = true)
    (hroom : a.visit?.isSome = true → (h.filter Entry.isSent).length + 2 < UInt64.size) :
    Keeps g (h ++ [(a, (s.step a).1)]) (s.step a).2 := by
  cases hv : a.visit? with
  | none =>
    have hregular := isRegular_of_orderly ha
    obtain ⟨hsent, hrefused⟩ := Entry.of_quiet hv (s.step a).1
    refine keeps_of_unsent hk hsent (gateway_step hregular) (inOrder_step ha) (keyed_step hk.keyed) ?_
    rw [hrefused]
    exact (quiet_of_step s hv).kept hregular
  | some v =>
    rw [hv] at hroom
    cases hcourse : g.course ⟨v.block, v.frame, .none⟩ v.call s.chain with
    | stopped cause =>
      obtain ⟨hsent, hrefused⟩ := Entry.of_stopped (Gateway.early_of_stopped hcourse) a s.chain.journal.closed
        (s.chain.ledger.nextSequence g.config.route)
      rw [step_of_course hk hv hcourse]
      refine keeps_of_unsent hk hsent rfl rfl hk.keyed ⟨rfl, rfl, ?_, List.append_nil _⟩
      simp only [hrefused]
      rfl
    | unsent cause =>
      obtain ⟨hsent, hrefused⟩ := Entry.of_unsent hv cause s.chain.journal.closed
        (s.chain.ledger.nextSequence g.config.route)
      rw [step_of_course hk hv hcourse]
      refine keeps_of_unsent hk hsent rfl rfl hk.keyed ⟨rfl, rfl, ?_, List.append_nil _⟩
      simp only [hrefused]
      rfl
    | sent action req p left => exact keeps_visit_of_sent hk hv (hroom rfl) hcourse

/-! ## Runs -/

/-- How many of the steps are calls. -/
def calls (steps : List Step) : Nat :=
  steps.countP fun a => a.visit?.isSome

theorem isSome_visit_of_sent {e : Entry} (hsent : e.isSent = true) : e.1.visit?.isSome = true := by
  rcases Bool.or_eq_true_iff.1 hsent with h | h <;> exact (Bool.and_eq_true_iff.1 h).1

/-- **A run keeps the books**, if there are numbers left for all its calls. -/
theorem keeps_after {steps : List Step} (hk : Keeps g h s) (hsteps : ∀ a ∈ steps, a.isOrderly = true)
    (hroom : (h.filter Entry.isSent).length + calls steps + 1 < UInt64.size) :
    Keeps g (h ++ s.history steps) (s.after steps) := by
  -- by induction on the steps that are left; `h` is the history of those that were done
  induction steps generalizing h s with
  | nil =>
    rw [show s.history [] = [] from rfl, List.append_nil]
    exact hk
  | cons a as ih =>
    have hcalls : calls (a :: as) = calls as + if a.visit?.isSome then 1 else 0 := List.countP_cons
    have hsent : ((h ++ [(a, (s.step a).1)]).filter Entry.isSent).length ≤
        (h.filter Entry.isSent).length + if a.visit?.isSome then 1 else 0 := by
      rw [List.filter_append, List.length_append, List.filter_singleton]
      cases hs : Entry.isSent (a, (s.step a).1) with
      | false => exact Nat.le_add_right _ _
      | true => rw [if_pos (isSome_visit_of_sent hs)]; exact Nat.le_refl _
    have hstep : Keeps g (h ++ [(a, (s.step a).1)]) (s.step a).2 := by
      refine keeps_step hk (hsteps a List.mem_cons_self) fun hvisit => ?_
      rw [if_pos hvisit] at hcalls
      omega
    have hrun := ih hstep (fun b hb => hsteps b (List.mem_cons_of_mem a hb)) (by omega)
    rwa [List.append_assoc] at hrun

theorem keeps_start (g : Gateway) : Keeps g [] (start g) where
  gateway := rfl
  inOrder := rfl
  keyed := by
    intro denom pair hpair
    cases hpair
  number := rfl
  entries := rfl
  books :=
    { packets := sent_of_entries (g := g) (h := []) rfl
      receipts := fun _ _ hmem => absurd hmem List.not_mem_nil
      logs := rfl
      logCount := rfl
      refused := rfl }

/-- **The books of a whole run.** They can be told from what came of the steps: packets, receipts, logs and refusals are
    those of the calls, in the order of the calls. And whatever logs there are at any time stay the first ones. -/
theorem books_of_run (g : Gateway) (steps : List Step) (hsteps : ∀ a ∈ steps, a.isOrderly = true)
    (hcalls : calls steps < UInt64.size - 1) :
    Books g ((start g).history steps) ((start g).after steps).chain ∧
    ∀ before rest, steps = before ++ rest →
      ((start g).after before).chain.journal.logs <+: ((start g).after steps).chain.journal.logs := by
  have hbooks {part : List Step} (hpart : part.Sublist steps) : Books g ((start g).history part) ((start g).after part).chain := by
    have hfew : calls part ≤ calls steps := hpart.countP_le
    have hroom : ([].filter Entry.isSent).length + calls part + 1 < UInt64.size := by
      have hsize : UInt64.size = 18446744073709551616 := rfl
      show 0 + calls part + 1 < UInt64.size
      omega
    exact (keeps_after (keeps_start g) (fun a ha => hsteps a (hpart.subset ha)) hroom).books
  refine ⟨hbooks (.refl steps), ?_⟩
  rintro before rest rfl
  rw [(hbooks (List.sublist_append_left before rest)).logs, (hbooks (.refl _)).logs, history_append, numbered_append,
    List.flatMap_append]
  exact List.prefix_append _ _

/-- One call is answered, one cannot be logged, and one is refused. -/
def sampleRun : List Step :=
  sampleSetting ++ [sampleCall "stride1receiver", .closeJournal, sampleCall "stride1receiver",
    .closeRoute ⟨"transfer", "channel-0"⟩, sampleCall "stride1receiver"]

/-- There are two packets, of which one has logs, and one refusal. -/
theorem books_of_sampleRun : (∀ a ∈ sampleRun, a.isOrderly = true) ∧ calls sampleRun < UInt64.size - 1 ∧
    ((start Gateway.sampleGateway).after sampleRun).chain.ledger.sent.map (fun p => p.1.toNat) = [1, 2] ∧
    ((start Gateway.sampleGateway).after sampleRun).chain.journal.logs.length = 2 ∧
    ((start Gateway.sampleGateway).after sampleRun).chain.ledger.refused = 1 := by
  have horderly : ∀ a ∈ sampleRun, a.isOrderly = true := by decide
  have hcalls : calls sampleRun < UInt64.size - 1 := by decide
  obtain ⟨hbooks, -⟩ := books_of_run Gateway.sampleGateway sampleRun horderly hcalls
  -- what comes of the steps is computed; the books follow
  obtain ⟨hsent, hanswered, hrefused⟩ :
      (numbered ((start Gateway.sampleGateway).history sampleRun)).map Prod.snd = [1, 2] ∧
      ((start Gateway.sampleGateway).history sampleRun).countP Entry.isAnswered = 1 ∧
      ((start Gateway.sampleGateway).history sampleRun).countP Entry.isRefused = 1 := by
    decide +kernel
  refine ⟨horderly, hcalls, ?_, ?_, ?_⟩
  · have hnumbers := congrArg (List.map Prod.fst) hbooks.packets
    rw [List.map_map, List.map_map] at hnumbers
    exact hnumbers.trans hsent
  · rw [hbooks.logCount, hanswered]
  · rw [hbooks.refused, hrefused]

end Scenario

end RemoteStaking
