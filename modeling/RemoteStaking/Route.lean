/-!
# `RemoteStaking.Route` — where packets leave the chain
-/

namespace RemoteStaking

/-- A port of this chain and a channel on it, which lead to one port of one other chain. -/
structure Route where
  port : String
  channel : String
deriving DecidableEq

/-- Port and channel, joined by a slash. -/
def Route.toText (r : Route) : String :=
  r.port ++ "/" ++ r.channel

end RemoteStaking
