import ClusterProxy.Frame.Scan
import ClusterProxy.Settings.Seed

/-!
# Settings of a router

`Settings.standard` holds where nothing is set. `Settings.validate` checks settings and brings the
seeds into their normal form.
-/

namespace ClusterProxy

/-- What happens to a request whose keys lie in different slots. -/
inductive CrossSlotPolicy where
  /-- The client is told. -/
  | reject
deriving DecidableEq, Repr

/-- The settings of a router: how many redirects a request may follow, how many nanoseconds pass
before a request that came too early is sent again, the seeds, and the largest frame. -/
structure Settings where
  maxRedirects : UInt32
  retryDelay : Nat
  seeds : List String
  maxFrameSize : Nat
  crossSlot : CrossSlotPolicy
deriving DecidableEq, Repr

namespace Settings

/-- Nanoseconds in a millisecond. -/
def millisecond : Nat := 1000000

/-- The settings where nothing is set. -/
def standard : Settings := ⟨5, 50 * millisecond, [], Frame.defaultLimit, .reject⟩

/-- Settings that can be used: the frame size is positive and every seed has its normal form. -/
def validate (settings : Settings) : Except Fault Settings :=
  if settings.maxFrameSize = 0 then
    .error (.invalidArgument "max_frame_size must be positive")
  else match settings.seeds.mapM Seed.normalize with
    | .error fault => .error fault
    | .ok seeds => .ok { settings with seeds }

/-- Adds seeds. -/
def addSeeds (settings : Settings) (seeds : List String) : Settings :=
  { settings with seeds := settings.seeds ++ seeds }

end Settings

end ClusterProxy
