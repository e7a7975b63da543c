import RemoteStaking.Purse
import RemoteStaking.Transfer.Basic

/-!
# `RemoteStaking.Authorization` — leave to transfer another account's tokens

An authorization says over which routes, to whom, and how much may be sent.

## Contents
- **`Allocation`**, **`Authorization`**: the leave, route by route.
- **`Allocation.spend`**: what a transfer leaves of an allocation.
- **`Authorization.accept`**: whether a transfer is within the leave (`Refusal`), and what becomes of the leave
  (`Verdict`).
-/

namespace RemoteStaking

/-- Leave to send over one route. Coins of the same denomination in the limit add up; an empty list of receivers allows
    all. -/
structure Allocation where
  route : Route
  spendLimit : List Coin
  allowList : List String
deriving DecidableEq

/-- Leave to send over several routes. Of several allocations with the same route the first one counts. -/
structure Authorization where
  allocations : List Allocation
deriving DecidableEq

/-- Why a transfer is not within the leave. -/
inductive Refusal where
  | noAllocation (route : Route)
  | receiverNotAllowed (receiver : String)
  | overLimit (requested : Coin) (limit : Purse)
deriving DecidableEq

/-- The refusal as a text. -/
def Refusal.message : Refusal → String
  | .noAllocation route =>
    "requested port `" ++ route.port ++ "` and channel `" ++ route.channel ++ "` allocation does not exist"
  | .receiverNotAllowed receiver => "receiver `" ++ receiver ++ "` is not in the allow list"
  | .overLimit requested limit =>
    "requested amount `" ++ toString requested ++ "` is more than the spend limit `" ++ limit.toText ++ "`"

/-- What becomes of the leave when a transfer within it is made. -/
inductive Verdict where
  /-- The limit has no bound, so the leave stays as it is. -/
  | unlimited
  /-- Nothing is left. -/
  | exhausted
  /-- This is left. -/
  | reduced (rest : Authorization)
deriving DecidableEq

namespace Allocation

/-- Whether the allocation allows the receiver. -/
def allows (a : Allocation) (receiver : String) : Bool :=
  a.allowList.isEmpty || a.allowList.contains receiver

/-- What is left of the limit after the transfer, or `none` if the limit has no bound in its denomination. A limit of
    which the coins add up to more than an amount can be covers nothing. -/
def spend (a : Allocation) (t : Transfer) : Except Refusal (Option Purse) :=
  if a.allows t.receiver then
    match Purse.ofCoins a.spendLimit with
    | .error _ => .error (.overLimit t.token .empty)
    | .ok limit =>
      if limit.amountOf t.token.denom = .max then .ok none
      else
        match limit.deduct t.token with
        | .error _ => .error (.overLimit t.token limit)
        | .ok left => .ok (some left)
  else .error (.receiverNotAllowed t.receiver)

/-- The allocation without what was spent, or nothing if that was all. -/
def keep (a : Allocation) (left : Purse) : List Allocation :=
  if left.isEmpty then [] else [{ a with spendLimit := left.coins }]

end Allocation

/-- The first allocation for a route, with those before it and those after it. -/
def splitAtRoute (route : Route) : List Allocation → Option (List Allocation × Allocation × List Allocation)
  | [] => none
  | a :: as =>
    if a.route = route then some ([], a, as)
    else (splitAtRoute route as).map fun (before, found, after) => (a :: before, found, after)

/-- The verdict that leaves the given allocations. -/
def Verdict.ofRest : List Allocation → Verdict
  | [] => .exhausted
  | as => .reduced ⟨as⟩

/-- Whether the transfer is within the leave, and what becomes of it. -/
def Authorization.accept (auth : Authorization) (t : Transfer) : Except Refusal Verdict :=
  match splitAtRoute t.route auth.allocations with
  | none => .error (.noAllocation t.route)
  | some (before, a, after) =>
    match a.spend t with
    | .error e => .error e
    | .ok none => .ok .unlimited
    | .ok (some left) => .ok (.ofRest (before ++ a.keep left ++ after))

end RemoteStaking
