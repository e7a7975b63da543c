import RemoteStaking.Bech32.Basic
import RemoteStaking.Transfer.Basic
import RemoteStaking.Transfer.Identifier

/-!
# `RemoteStaking.Transfer.Check` — what a transfer has to satisfy before it is sent

## Contents
- **`TransferFlaw`**: what can be wrong, and the text for it.
- **`Transfer.check`**: looks at the parts one after the other and reports the first flaw.
-/

namespace RemoteStaking

/-- What is wrong with a transfer, in the order in which it is looked for. -/
inductive TransferFlaw where
  | badIdentifier (kind : IdentifierKind) (id : String) (flaw : IdentifierFlaw)
  | badDenom (denom : String)
  | zeroAmount
  | badSender (sender : String) (cause : Bech32.DecodeError)
  | blankReceiver
  | longReceiver (found most : Nat)
  | longMemo (found most : Nat)
deriving DecidableEq

/-- The flaw as a text. -/
def TransferFlaw.message : TransferFlaw → String
  | .badIdentifier kind id flaw => "invalid " ++ kind.word ++ " identifier `" ++ id ++ "`: " ++ flaw.message
  | .badDenom denom => "invalid denom `" ++ denom ++ "`"
  | .zeroAmount => "transfer amount must be positive"
  | .badSender sender cause => "invalid sender address `" ++ sender ++ "`: " ++ cause.message
  | .blankReceiver => "missing recipient address"
  | .longReceiver found most => s!"recipient address must not exceed {most} bytes, found {found}"
  | .longMemo found most => s!"memo must not exceed {most} bytes, found {found}"

/-- Whether the text can name a port or a channel, as a part of a transfer. -/
def checkIdentifier (kind : IdentifierKind) (id : String) : Except TransferFlaw Unit :=
  (kind.check id).mapError (.badIdentifier kind id)

namespace Transfer

/-- The most bytes of a receiver. -/
def mostReceiver : Nat := 2048

/-- The most bytes of a memo. -/
def mostMemo : Nat := 32768

/-- The denomination has to be well formed. -/
def checkDenom (t : Transfer) : Except TransferFlaw Unit :=
  if isDenom t.token.denom then .ok () else .error (.badDenom t.token.denom)

/-- The amount has to be positive. -/
def checkAmount (t : Transfer) : Except TransferFlaw Unit :=
  if t.token.amount.toNat = 0 then .error .zeroAmount else .ok ()

/-- The sender has to be the name of an account. -/
def checkSender (t : Transfer) : Except TransferFlaw Unit :=
  match Bech32.decode t.sender with
  | .ok _ => .ok ()
  | .error e => .error (.badSender t.sender e)

/-- The receiver has to say something, and not too much. What it names is for the other chain to judge. -/
def checkReceiver (t : Transfer) : Except TransferFlaw Unit :=
  if allBlank t.receiver then .error .blankReceiver
  else if mostReceiver < t.receiver.utf8ByteSize then .error (.longReceiver t.receiver.utf8ByteSize mostReceiver)
  else .ok ()

/-- The memo may not be too long. -/
def checkMemo (t : Transfer) : Except TransferFlaw Unit :=
  if mostMemo < t.memo.utf8ByteSize then .error (.longMemo t.memo.utf8ByteSize mostMemo) else .ok ()

/-- Whether the transfer can be sent, and what is wrong first otherwise. -/
def check (t : Transfer) : Except TransferFlaw Unit := do
  checkIdentifier .port t.route.port
  checkIdentifier .channel t.route.channel
  t.checkDenom
  t.checkAmount
  t.checkSender
  t.checkReceiver
  t.checkMemo

end Transfer

end RemoteStaking
