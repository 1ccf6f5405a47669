import WifiRoster.Attribution.Account
import WifiRoster.Report
import WifiRoster.Settings

/-!
# Sessions

A session keeps a policy and the saved profiles while scans come in. Without any saved profiles
ever given there is no index at all, which is not the same as an index without profiles.
-/

namespace WifiRoster

/-- What a session keeps. -/
structure Session where
  policy : Policy
  saved : Option ProfileIndex

namespace Session

/-- A session at its start. -/
def start : Session := ⟨Settings.default.policy, none⟩

/-- The session with another mode. -/
def setMode (session : Session) (mode : Mode) : Session :=
  { session with policy := { session.policy with mode := mode } }

/-- The session on another platform. -/
def setPlatform (session : Session) (platform : Platform) : Session :=
  { session with policy := { session.policy with platform := platform } }

/-- The session with one more saved profile, and whether it replaces another. -/
def save (session : Session) (profile : Profile) : Bool × Session :=
  let index := session.saved.getD ∅
  (index.contains profile.key, { session with saved := some (index.save profile) })

/-- The session without the profile of a key, and whether there was one. -/
def forget (session : Session) (key : EntryKey) : Bool × Session :=
  (isSaved session.saved key, { session with saved := session.saved.map (·.erase key) })

/-- The session with other saved profiles. -/
def load (session : Session) (saved : Option ProfileIndex) : Session :=
  { session with saved := saved }

/-- The entries of a scan. -/
def scan (session : Session) (observations : List Observation) : EntryMap :=
  session.policy.entries session.saved (Sighting.ofScan observations)

/-- The events of a scan. -/
def account (session : Session) (observations : List Observation) : List Event :=
  session.policy.account session.saved (Sighting.ofScan observations)

/-- The report on a scan. -/
def report (session : Session) (observations : List Observation) (verbose : Bool) : String :=
  WifiRoster.report .english verbose (Entry.ofMap (session.scan observations) session.saved)

end Session

end WifiRoster
