import Mathlib.Algebra.GroupWithZero.Nat
import RemoteStaking.Proofs.Chain.Sending

/-!
# `RemoteStaking.Proofs.Chain.Accounts` — a ledger and what came of all that was done to it

Routes are opened and closed, balances are set, and transfers are sent, in any order. What came of each of these deeds is
an event, and from the events alone it can be told what the ledger holds and what it answers next.

Each view of the ledger is changed by an event in one way (`Follows`), and what is told from the events is changed by one
more event in the same way; so the two stay equal over any run.

## Contents
- **The run.** `Ledger.Deed`, `Ledger.Event`, `Ledger.perform`, `Ledger.after`, `Ledger.history`; `run_of_step`: what every
  deed keeps, a run keeps.
- **What events tell.** `openAfter`, `lastSet`, `spentSince`, `numbersOver`, with one law each for one more event.
- **One deed.** `Follows`, **`follows_perform`**.
- **All deeds.** `Accounts`, `accounts_step`, **`accounts_after`**. `Serves`: what comes of the next transfer.
- **`ledger_keeps_accounts`**.
-/

namespace RemoteStaking

namespace Ledger

/-! ## The run -/

/-- What can be done to a ledger. -/
inductive Deed where
  | openRoute (route : Route)
  | closeRoute (route : Route)
  | setBalance (account : String) (coin : Coin)
  | send (t : Transfer)

/-- What came of a deed. -/
inductive Event where
  | opened (route : Route)
  | closed (route : Route)
  | set (account : String) (coin : Coin)
  /-- A transfer was sent, and its packet was given a number. -/
  | sent (t : Transfer) (sequence : UInt64)
  | refused (t : Transfer) (cause : ChainError)
deriving DecidableEq

/-- Do a deed. -/
def perform (l : Ledger) : Deed → Event × Ledger
  | .openRoute route => (.opened route, l.openRoute route)
  | .closeRoute route => (.closed route, l.closeRoute route)
  | .setBalance account coin => (.set account coin, l.setBalance account coin)
  | .send t =>
    match l.send t with
    | (.ok sequence, l') => (.sent t sequence, l')
    | (.error cause, l') => (.refused t cause, l')

/-- The ledger after the deeds. -/
def after (l : Ledger) : List Deed → Ledger
  | [] => l
  | d :: ds => (l.perform d).2.after ds

/-- What came of the deeds, in their order. -/
def history (l : Ledger) : List Deed → List Event
  | [] => []
  | d :: ds => (l.perform d).1 :: (l.perform d).2.history ds

/-- How many of the deeds are transfers. -/
def sends (ds : List Deed) : Nat :=
  ds.countP fun
    | .send _ => true
    | _ => false

/-- **What every deed keeps, a run keeps.** A relation between the events so far and the ledger after them holds after any
more deeds. -/
theorem run_of_step {P : List Event → Ledger → Prop}
    (hstep : ∀ h l d, P h l → P (h ++ [(l.perform d).1]) (l.perform d).2) {h : List Event} {l : Ledger} (hl : P h l)
    (ds : List Deed) : P (h ++ l.history ds) (l.after ds) := by
  -- by induction on the deeds that are left; `h` has the events of those that were done
  induction ds generalizing h l with
  | nil =>
    show P (h ++ []) l
    rw [List.append_nil]
    exact hl
  | cons d ds ih =>
    have hrun := ih (hstep h l d hl)
    rwa [List.append_assoc] at hrun

/-! ## What events tell -/

namespace Event

/-- Whether the event opened or closed the route, if it did either. -/
def opens? (route : Route) : Event → Option Bool
  | opened r => if r = route then some true else none
  | closed r => if r = route then some false else none
  | _ => none

/-- The amount to which the event set a balance, if it did. -/
def sets? (account denom : String) : Event → Option Nat
  | set a c => if (a, c.denom) = (account, denom) then some c.amount.toNat else none
  | _ => none

/-- What the event took out of a balance. -/
def spends (account denom : String) : Event → Nat
  | sent t _ => if (t.sender, t.token.denom) = (account, denom) then t.token.amount.toNat else 0
  | _ => 0

/-- The number that the event gave to a packet over the route, if it did. -/
def numbers? (route : Route) : Event → Option Nat
  | sent t n => if t.route = route then some n.toNat else none
  | _ => none

/-- Whether a transfer was refused. -/
def isRefused : Event → Bool
  | refused _ _ => true
  | _ => false

end Event

/-- Whether the last of the events that opened or closed the route opened it. -/
def openAfter (route : Route) (h : List Event) : Bool :=
  (h.reverse.findSome? (Event.opens? route)).getD false

/-- The amount to which a balance was set last, zero if it never was. -/
def lastSet (account denom : String) (h : List Event) : Nat :=
  (h.reverse.findSome? (Event.sets? account denom)).getD 0

/-- The events after the last one that set a balance, the latest first. -/
def sinceSet (account denom : String) (h : List Event) : List Event :=
  h.reverse.takeWhile fun e => (e.sets? account denom).isNone

/-- What was sent from a balance since it was set last. -/
def spentSince (account denom : String) (h : List Event) : Nat :=
  ((sinceSet account denom h).map (Event.spends account denom)).sum

/-- The numbers of the packets sent over a route, in the order in which they were sent. -/
def numbersOver (route : Route) (h : List Event) : List Nat :=
  h.filterMap (Event.numbers? route)

theorem openAfter_concat (route : Route) (h : List Event) (e : Event) :
    openAfter route (h ++ [e]) = (e.opens? route).getD (openAfter route h) := by
  unfold openAfter
  rw [List.reverse_concat, List.findSome?_cons]
  cases e.opens? route <;> rfl

theorem lastSet_concat (account denom : String) (h : List Event) (e : Event) :
    lastSet account denom (h ++ [e]) = (e.sets? account denom).getD (lastSet account denom h) := by
  unfold lastSet
  rw [List.reverse_concat, List.findSome?_cons]
  cases e.sets? account denom <;> rfl

theorem spentSince_concat_of_set {account denom : String} {e : Event} {n : Nat} (h : List Event)
    (he : e.sets? account denom = some n) : spentSince account denom (h ++ [e]) = 0 := by
  unfold spentSince sinceSet
  rw [List.reverse_concat, List.takeWhile_cons_of_neg (by rw [he]; exact Bool.false_ne_true)]
  rfl

theorem spentSince_concat_of_not_set {account denom : String} {e : Event} (h : List Event)
    (he : e.sets? account denom = none) :
    spentSince account denom (h ++ [e]) = e.spends account denom + spentSince account denom h := by
  unfold spentSince sinceSet
  rw [List.reverse_concat, List.takeWhile_cons_of_pos (by rw [he]; rfl), List.map_cons, List.sum_cons]

/-- One more element adds what is picked from it. -/
theorem filterMap_concat {α β : Type} (pick : α → Option β) (xs : List α) (x : α) :
    (xs ++ [x]).filterMap pick = xs.filterMap pick ++ (pick x).toList := by
  rw [List.filterMap_append]
  cases hx : pick x with
  | none => rw [List.filterMap_cons_none hx, List.filterMap_nil, Option.toList_none]
  | some y => rw [List.filterMap_cons_some hx, List.filterMap_nil, Option.toList_some]

theorem numbersOver_concat (route : Route) (h : List Event) (e : Event) :
    numbersOver route (h ++ [e]) = numbersOver route h ++ (e.numbers? route).toList :=
  filterMap_concat (Event.numbers? route) h e

/-! ## One deed -/

/-- **How an event changes the views of a ledger.** -/
structure Follows (l : Ledger) (e : Event) (l' : Ledger) : Prop where
  isOpen : ∀ route, l'.isOpen route = (e.opens? route).getD (l.isOpen route)
  balance : ∀ account denom, (l'.balance account denom).toNat + e.spends account denom =
    (e.sets? account denom).getD (l.balance account denom).toNat
  number : ∀ route n, e.numbers? route = some n → n = (l.nextSequence route).toNat
  next : ∀ route, l'.nextSequence route =
    if (e.numbers? route).isSome then l.nextSequence route + 1 else l.nextSequence route
  refused : l'.refused = l.refused + if e.isRefused then 1 else 0

variable {l : Ledger} {t : Transfer}

theorem isOpen_openRoute (l : Ledger) (opened route : Route) :
    (l.openRoute opened).isOpen route = if opened = route then true else l.isOpen route := by
  unfold isOpen openRoute
  rw [List.contains_cons]
  by_cases h : opened = route
  · rw [if_pos h, h, beq_self_eq_true, Bool.true_or]
  · rw [if_neg h, beq_eq_false_iff_ne.2 fun heq => h heq.symm, Bool.false_or]

theorem isOpen_closeRoute (l : Ledger) (closed route : Route) :
    (l.closeRoute closed).isOpen route = if closed = route then false else l.isOpen route := by
  unfold isOpen closeRoute
  by_cases h : closed = route
  · rw [if_pos h, h, Bool.eq_false_iff]
    intro hmem
    have hne := (List.mem_filter.1 (List.contains_iff_mem.1 hmem)).2
    exact absurd rfl (of_decide_eq_true hne)
  · rw [if_neg h, Bool.eq_iff_iff, List.contains_iff_mem, List.contains_iff_mem, List.mem_filter]
    constructor
    · rintro ⟨hmem, -⟩
      exact hmem
    · intro hmem
      exact ⟨hmem, decide_eq_true fun heq => h heq.symm⟩

theorem balance_setBalance (l : Ledger) (owner account denom : String) (coin : Coin) :
    (l.setBalance owner coin).balance account denom =
      if (owner, coin.denom) = (account, denom) then coin.amount else l.balance account denom := by
  unfold balance setBalance
  rw [Table.get?_insert]
  split <;> rfl

theorem perform_of_debit {left : Amount} (h : l.debit t = .ok left) :
    l.perform (.send t) = (.sent t (l.nextSequence t.route), l.record t left) := by
  simp only [perform, send_of_debit h]

theorem perform_of_fault {cause : ChainError} (h : SendFault l t cause) :
    l.perform (.send t) = (.refused t cause, { l with refused := l.refused + 1 }) := by
  simp only [perform, send_of_fault h]

/-- A transfer that is sent takes the next number of its route and its coin from its sender. -/
theorem follows_record {left : Amount} (h : l.debit t = .ok left) :
    Follows l (.sent t (l.nextSequence t.route)) (l.record t left) where
  isOpen route := rfl
  balance account denom := by
    obtain ⟨-, hleft⟩ := debit_eq_ok_iff.1 h
    rw [balance_record]
    show _ + (if (t.sender, t.token.denom) = (account, denom) then t.token.amount.toNat else 0) =
      (l.balance account denom).toNat
    by_cases hkey : (t.sender, t.token.denom) = (account, denom)
    · rw [if_pos hkey, if_pos hkey]
      cases hkey
      omega
    · rw [if_neg hkey, if_neg hkey, Nat.add_zero]
  number route n hn := by
    simp only [Event.numbers?] at hn
    split at hn
    · rename_i hroute
      cases hn
      rw [hroute]
    · cases hn
  next route := by
    rw [nextSequence_record]
    show _ = if (if t.route = route then some (l.nextSequence t.route).toNat else none).isSome then _ else _
    by_cases hroute : t.route = route
    · simp only [if_pos hroute, Option.isSome_some, if_true]
    · simp only [if_neg hroute, Option.isSome_none, Bool.false_eq_true, if_false]
  refused := rfl

/-- **One deed.** Whatever is done, the ledger follows what came of it. -/
theorem follows_perform (l : Ledger) (d : Deed) : Follows l (l.perform d).1 (l.perform d).2 := by
  cases d with
  | openRoute opened =>
    refine ⟨fun route => ?_, fun _ _ => rfl, nofun, fun _ => rfl, rfl⟩
    show (l.openRoute opened).isOpen route = (if opened = route then some true else none).getD (l.isOpen route)
    rw [isOpen_openRoute]
    split <;> rfl
  | closeRoute closed =>
    refine ⟨fun route => ?_, fun _ _ => rfl, nofun, fun _ => rfl, rfl⟩
    show (l.closeRoute closed).isOpen route = (if closed = route then some false else none).getD (l.isOpen route)
    rw [isOpen_closeRoute]
    split <;> rfl
  | setBalance owner coin =>
    refine ⟨fun _ => rfl, fun account denom => ?_, nofun, fun _ => rfl, rfl⟩
    show ((l.setBalance owner coin).balance account denom).toNat + 0 =
      (if (owner, coin.denom) = (account, denom) then some coin.amount.toNat else none).getD _
    rw [balance_setBalance, Nat.add_zero]
    split <;> rfl
  | send t =>
    rcases sendFault_or_funds l t with ⟨cause, hfault⟩ | ⟨hopen, hfunds⟩
    · rw [perform_of_fault hfault]
      exact ⟨fun _ => rfl, fun _ _ => rfl, nofun, fun _ => rfl, rfl⟩
    · obtain ⟨left, hleft⟩ := debit_of_funds hopen hfunds
      rw [perform_of_debit hleft]
      exact follows_record hleft

/-! ## All deeds -/

/-- **The ledger agrees with the events behind it.** -/
structure Accounts (h : List Event) (l : Ledger) : Prop where
  /-- A route is open if it was opened and not closed since. -/
  routes : ∀ route, l.isOpen route = openAfter route h
  /-- A balance is what it was set to last, less what was sent from it since. -/
  balances : ∀ account denom, (l.balance account denom).toNat + spentSince account denom h = lastSet account denom h
  /-- The packets over a route are numbered one after the other, from one on. -/
  numbers : ∀ route, numbersOver route h = List.range' 1 (numbersOver route h).length
  /-- The next packet over a route has the number that comes next. -/
  next : ∀ route, (l.nextSequence route).toNat = (numbersOver route h).length + 1
  /-- Refusals are counted. -/
  refused : l.refused = h.countP Event.isRefused

theorem accounts_empty : Accounts [] empty where
  routes _ := rfl
  balances _ _ := rfl
  numbers _ := rfl
  next _ := rfl
  refused := rfl

/-- One more event is accounted for, if there is a number left after those that were given. -/
theorem accounts_concat {h : List Event} {e : Event} {l' : Ledger} (hl : Accounts h l) (he : Follows l e l')
    (hroom : ∀ route, (e.numbers? route).isSome = true → (numbersOver route h).length + 2 < UInt64.size) :
    Accounts (h ++ [e]) l' where
  routes route := by
    rw [he.isOpen, openAfter_concat, hl.routes]
  balances account denom := by
    have hbalance := he.balance account denom
    have hbefore := hl.balances account denom
    rw [lastSet_concat]
    cases hset : e.sets? account denom with
    | none =>
      rw [hset] at hbalance
      rw [spentSince_concat_of_not_set h hset]
      simp only [Option.getD_none] at hbalance ⊢
      omega
    | some n =>
      -- what sets a balance is no transfer from it
      have hspends : e.spends account denom = 0 := by
        cases e with
        | sent t n => cases hset
        | _ => rfl
      rw [hset, hspends] at hbalance
      rw [spentSince_concat_of_set h hset]
      exact hbalance
  numbers route := by
    rw [numbersOver_concat]
    cases hnumber : e.numbers? route with
    | none =>
      rw [Option.toList_none, List.append_nil]
      exact hl.numbers route
    | some n =>
      have hn : n = 1 + (numbersOver route h).length := by
        rw [he.number route n hnumber, hl.next, Nat.add_comm]
      rw [Option.toList_some, List.length_append, List.length_singleton, List.range'_concat, ← hl.numbers route, hn,
        Nat.one_mul]
  next route := by
    rw [he.next, numbersOver_concat]
    cases hnumber : e.numbers? route with
    | none =>
      rw [Option.toList_none, List.append_nil]
      exact hl.next route
    | some n =>
      have hlt : (numbersOver route h).length + 1 + 1 < UInt64.size := hroom route (by rw [hnumber]; rfl)
      rw [Option.toList_some, List.length_append, List.length_singleton, Option.isSome_some, if_pos rfl,
        UInt64.toNat_add, hl.next]
      exact Nat.mod_eq_of_lt hlt
  refused := by
    rw [he.refused, hl.refused, List.countP_append, List.countP_singleton]

/-- Whatever is done next is accounted for, if the numbers that were given have all fitted. -/
theorem accounts_step (h : List Event) (l : Ledger) (d : Deed)
    (hl : (∀ route, (numbersOver route h).length + 1 < UInt64.size) → Accounts h l)
    (hroom : ∀ route, (numbersOver route (h ++ [(l.perform d).1])).length + 1 < UInt64.size) :
    Accounts (h ++ [(l.perform d).1]) (l.perform d).2 := by
  have hbefore : ∀ route, (numbersOver route h).length + 1 < UInt64.size := by
    intro route
    have hlt := hroom route
    rw [numbersOver_concat, List.length_append] at hlt
    omega
  apply accounts_concat (hl hbefore) (follows_perform l d)
  intro route hsome
  obtain ⟨n, hn⟩ := Option.isSome_iff_exists.1 hsome
  have hlt := hroom route
  rw [numbersOver_concat, hn, Option.toList_some, List.length_append, List.length_singleton] at hlt
  exact hlt

/-- No more numbers are given than there are transfers. -/
theorem length_numbersOver_le (l : Ledger) (ds : List Deed) (route : Route) :
    (numbersOver route (l.history ds)).length ≤ sends ds := by
  induction ds generalizing l with
  | nil => exact Nat.le_refl 0
  | cons d ds ih =>
    have hrest := ih (l.perform d).2
    unfold numbersOver sends at hrest ⊢
    rw [List.length_filterMap_eq_countP] at hrest ⊢
    cases d with
    | send t =>
      rw [history, List.countP_cons, List.countP_cons_of_pos rfl]
      split <;> omega
    | _ => exact hrest

/-- **All deeds.** A ledger on which nothing was done before agrees with all that is done. -/
theorem accounts_after (ds : List Deed) (hfew : sends ds < UInt64.size - 1) :
    Accounts (empty.history ds) (empty.after ds) := by
  have hrun := run_of_step accounts_step (fun _ => accounts_empty) ds
  rw [List.nil_append] at hrun
  apply hrun
  intro route
  have hle := length_numbersOver_le empty ds route
  omega

/-- **What comes of a transfer.** -/
structure Serves (h : List Event) (l : Ledger) (t : Transfer) : Prop where
  /-- It is sent if its route is open and what is left of the sender's balance covers it, and only then. -/
  sent_iff : (∃ n, (l.perform (.send t)).1 = .sent t n) ↔ openAfter t.route h = true ∧
    spentSince t.sender t.token.denom h + t.token.amount.toNat ≤ lastSet t.sender t.token.denom h
  /-- Otherwise it is refused, and nothing changes but the count of refusals. -/
  refused : (¬ ∃ n, (l.perform (.send t)).1 = .sent t n) →
    ∃ cause, l.perform (.send t) = (.refused t cause, { l with refused := l.refused + 1 })

theorem serves_of_accounts {h : List Event} (hl : Accounts h l) (t : Transfer) : Serves h l t := by
  have hbalance := hl.balances t.sender t.token.denom
  have hroute := hl.routes t.route
  rcases sendFault_or_funds l t with ⟨cause, hfault⟩ | ⟨hopen, hfunds⟩
  · have hperform := perform_of_fault hfault
    have hunsent : ¬ ∃ n, (l.perform (.send t)).1 = .sent t n := by
      rintro ⟨n, hn⟩
      rw [hperform] at hn
      cases hn
    refine ⟨⟨fun hsent => absurd hsent hunsent, ?_⟩, fun _ => ⟨cause, hperform⟩⟩
    rintro ⟨hopen, hcovers⟩
    -- neither of the two reasons for a refusal is there
    cases hfault with
    | closed hclosed =>
      rw [← hroute, hclosed] at hopen
      cases hopen
    | short _ hshort => omega
  · obtain ⟨left, hleft⟩ := debit_of_funds hopen hfunds
    have hsent : ∃ n, (l.perform (.send t)).1 = .sent t n :=
      ⟨l.nextSequence t.route, by rw [perform_of_debit hleft]⟩
    refine ⟨⟨fun _ => ⟨hroute ▸ hopen, by omega⟩, fun _ => hsent⟩, fun hunsent => absurd hsent hunsent⟩

/-- **A ledger keeps its accounts**, whatever is done to it: packets are numbered route by route without a gap, balances are
    what was set less what was sent, refusals are counted, and the next transfer is sent if, and only if, its route is open
    and its sender has the funds. -/
theorem ledger_keeps_accounts (ds : List Deed) (hfew : sends ds < UInt64.size - 1) :
    Accounts (empty.history ds) (empty.after ds) ∧ ∀ t, Serves (empty.history ds) (empty.after ds) t := by
  have haccounts := accounts_after ds hfew
  exact ⟨haccounts, serves_of_accounts haccounts⟩

/-- 40 of a token. -/
def sampleTransfer : Transfer :=
  .along ⟨"transfer", "channel-0"⟩ ⟨"uosmo", ⟨40, by decide⟩⟩ "osmo1sender" "stride1receiver" ""

/-- Of three transfers the second finds the route closed. Before the third the balance is set anew. -/
def sampleDeeds : List Deed :=
  [.openRoute sampleTransfer.route, .setBalance sampleTransfer.sender ⟨"uosmo", ⟨75, by decide⟩⟩,
   .send sampleTransfer, .closeRoute sampleTransfer.route, .send sampleTransfer, .openRoute sampleTransfer.route,
   .setBalance sampleTransfer.sender ⟨"uosmo", ⟨55, by decide⟩⟩, .send sampleTransfer]

/-- Two packets are numbered, 15 are left of the 55, one transfer is refused, and so is a fourth one. -/
theorem accounts_of_sampleDeeds : sends sampleDeeds < UInt64.size - 1 ∧
    numbersOver sampleTransfer.route (empty.history sampleDeeds) = [1, 2] ∧
    ((empty.after sampleDeeds).balance sampleTransfer.sender "uosmo").toNat = 15 ∧
    (empty.after sampleDeeds).refused = 1 ∧
    ¬ ∃ n, ((empty.after sampleDeeds).perform (.send sampleTransfer)).1 = .sent sampleTransfer n := by
  have hfew : sends sampleDeeds < UInt64.size - 1 := by decide
  obtain ⟨haccounts, hserves⟩ := ledger_keeps_accounts sampleDeeds hfew
  -- what came of the deeds is computed; the ledger follows
  have hcount : (numbersOver sampleTransfer.route (empty.history sampleDeeds)).length = 2 := by decide
  have hset : lastSet sampleTransfer.sender "uosmo" (empty.history sampleDeeds) = 55 := by decide
  have hspent : spentSince sampleTransfer.sender "uosmo" (empty.history sampleDeeds) = 40 := by decide
  have hrefused : (empty.history sampleDeeds).countP Event.isRefused = 1 := by decide
  refine ⟨hfew, ?_, ?_, ?_, ?_⟩
  · rw [haccounts.numbers, hcount]
    rfl
  · have hbalance := haccounts.balances sampleTransfer.sender "uosmo"
    omega
  · rw [haccounts.refused, hrefused]
  · rw [(hserves sampleTransfer).sent_iff]
    rintro ⟨-, hcovers⟩
    have hamount : sampleTransfer.token.amount.toNat = 40 := rfl
    rw [show sampleTransfer.token.denom = "uosmo" from rfl, hspent, hset, hamount] at hcovers
    omega

end Ledger

end RemoteStaking
