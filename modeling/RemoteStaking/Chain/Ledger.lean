import RemoteStaking.Chain.Error
import RemoteStaking.Chain.Table
import RemoteStaking.Transfer.Basic

/-!
# `RemoteStaking.Chain.Ledger` — balances and packets

## Contents
- **`Ledger`**: open routes, balances, the packets sent and the numbers of the next ones.
- **`Ledger.openRoute`**, `closeRoute`, `setBalance`, `balance`: the books as they are kept from outside.
- **`Ledger.send`**: take the coin of a transfer from its sender and send the packet.
- **`Ledger.sent`**: all packets, by channel and number.
-/

namespace RemoteStaking

/-- The books of the transfer module. -/
structure Ledger where
  openRoutes : List Route
  /-- The number of the next packet; a route that is not here begins with one. -/
  nextSequences : Table Route UInt64
  /-- What an account holds of a denomination; what is not here is zero. -/
  balances : Table (String × String) Amount
  /-- The packets, by the name of the channel and their number. -/
  packets : Table (String × UInt64) Transfer
  /-- How many transfers were refused. -/
  refused : Nat
deriving DecidableEq

namespace Ledger

/-- No route, no balance, no packet. -/
def empty : Ledger := ⟨[], .empty, .empty, .empty, 0⟩

/-- Whether the route is open. -/
def isOpen (l : Ledger) (route : Route) : Bool :=
  l.openRoutes.contains route

/-- Open a route. -/
def openRoute (l : Ledger) (route : Route) : Ledger :=
  { l with openRoutes := route :: l.openRoutes }

/-- Close a route. The numbers of its packets go on when it is opened again. -/
def closeRoute (l : Ledger) (route : Route) : Ledger :=
  { l with openRoutes := l.openRoutes.filter (· ≠ route) }

/-- What an account holds of a denomination. -/
def balance (l : Ledger) (account denom : String) : Amount :=
  (l.balances.get? (account, denom)).getD .zero

/-- Let an account hold exactly a coin. -/
def setBalance (l : Ledger) (account : String) (coin : Coin) : Ledger :=
  { l with balances := l.balances.insert (account, coin.denom) coin.amount }

/-- The number of the next packet over a route. -/
def nextSequence (l : Ledger) (route : Route) : UInt64 :=
  (l.nextSequences.get? route).getD 1

/-- What the sender has left after a transfer over an open route. -/
def debit (l : Ledger) (t : Transfer) : Except ChainError Amount :=
  if l.isOpen t.route then
    match (l.balance t.sender t.token.denom).sub t.token.amount with
    | .ok left => .ok left
    | .error _ => .error (.shortOfFunds (l.balance t.sender t.token.denom) t.token)
  else .error (.routeClosed t.route)

/-- The books after the transfer is sent, with what the sender has left. -/
def record (l : Ledger) (t : Transfer) (left : Amount) : Ledger :=
  let sequence := l.nextSequence t.route
  { l with
    balances := l.balances.insert (t.sender, t.token.denom) left
    nextSequences := l.nextSequences.insert t.route (sequence + 1)
    packets := l.packets.insert (t.route.channel, sequence) t }

/-- Send the transfer, or count it as refused. -/
def send (l : Ledger) (t : Transfer) : Except ChainError UInt64 × Ledger :=
  match l.debit t with
  | .ok left => (.ok (l.nextSequence t.route), l.record t left)
  | .error e => (.error e, { l with refused := l.refused + 1 })

/-- Whether the key of a packet does not come after another: shorter names of channels come first, then names in
    order, then numbers. -/
def keyLe (a b : String × UInt64) : Bool :=
  if a.1.utf8ByteSize = b.1.utf8ByteSize then
    if a.1 = b.1 then a.2 ≤ b.2 else a.1 < b.1
  else a.1.utf8ByteSize < b.1.utf8ByteSize

/-- The packets with their numbers, by channel and number. -/
def sent (l : Ledger) : List (UInt64 × Transfer) :=
  (l.packets.entries.mergeSort fun p q => keyLe p.1 q.1).map fun p => (p.1.2, p.2)

end Ledger

end RemoteStaking
