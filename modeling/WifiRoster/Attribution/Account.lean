import WifiRoster.Attribution
import WifiRoster.Event

/-!
# The account of an attribution

An attribution accounts for each sighting that it does not list, and closes with the sums.
-/

namespace WifiRoster

/-- Whether a sighting was left out in favour of a sibling. -/
def Verdict.isCoalesced (verdict : Verdict) : Bool :=
  match verdict.outcome with
  | .coalesced _ => true
  | .assigned _ => false

/-- The event that accounts for a sighting that is listed under no key. -/
def Verdict.event? (verdict : Verdict) : Option Event :=
  let observation := verdict.sighting.observation
  match verdict.outcome with
  | .coalesced rule => some (.coalesced observation.name observation.descriptor rule)
  | .assigned protocols =>
    if protocols.isEmpty then
      some (.unlisted observation.name observation.descriptor verdict.usable)
    else none

namespace Policy

/-- The sums over a batch whose groups were judged in the given order. -/
def summary (policy : Policy) (saved : Option ProfileIndex) (batch : List Sighting)
    (groups : List (String × List Sighting)) : Event :=
  let verdicts := policy.verdicts saved groups
  .attributed policy.mode batch.length groups.length (batch.countP (·.name.isEmpty))
    (verdicts.countP (·.isCoalesced)) (EntryMap.ofVerdicts verdicts).size

/-- The events of an attribution that judges the groups of the batch in the given order. -/
def accountGroups (policy : Policy) (saved : Option ProfileIndex) (batch : List Sighting)
    (groups : List (String × List Sighting)) : List Event :=
  (policy.verdicts saved groups).filterMap (·.event?) ++ [policy.summary saved batch groups]

/-- The events of an attribution. -/
def account (policy : Policy) (saved : Option ProfileIndex) (batch : List Sighting) :
    List Event :=
  policy.accountGroups saved batch (Grouping.ofBatch batch).toList

end Policy

end WifiRoster
