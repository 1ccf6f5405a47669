import WifiRoster.Platform

/-!
# Policies

What is fixed while batches come and go: the mode of selection and the gates of the platform.
-/

namespace WifiRoster

/-- How many keys a sighting may be listed under. -/
inductive Mode where
  /-- At most one, so that a person is offered one choice for each network. -/
  | single
  /-- One for each protocol of the beacon, for connecting automatically. -/
  | multiple
deriving DecidableEq, Repr

/-- The name of a mode in diagnostics. -/
def Mode.label : Mode → String
  | single => "Single"
  | multiple => "MultiKey"

/-- The mode of selection, and what the platform supports. -/
structure Policy where
  mode : Mode
  platform : Platform
deriving DecidableEq, Repr

end WifiRoster
