import RemoteStaking.Address
import RemoteStaking.Chain.Error

/-!
# `RemoteStaking.Chain.Journal` — the logs of contracts
-/

namespace RemoteStaking

/-- What a contract wrote down: its address, the topics by which the log is found (32 bytes each), data, and the height
    of the block. -/
structure Log where
  address : Address
  topics : List (List UInt8)
  data : List UInt8
  height : UInt64
deriving DecidableEq

/-- The logs, the latest last, and whether the journal is closed. -/
structure Journal where
  logs : List Log
  closed : Bool
deriving DecidableEq

namespace Journal

/-- No logs. -/
def empty : Journal := ⟨[], false⟩

/-- Take no logs any more. -/
def close (j : Journal) : Journal :=
  { j with closed := true }

/-- Write a log at the end. -/
def add (j : Journal) (log : Log) : Except ChainError Journal :=
  if j.closed then .error .logRefused else .ok { j with logs := j.logs ++ [log] }

end Journal

end RemoteStaking
