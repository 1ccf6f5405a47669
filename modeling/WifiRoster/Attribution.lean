import WifiRoster.Attribution.EntryMap
import WifiRoster.Attribution.Grouping

/-!
# Attribution of sightings to entries

A batch of sightings is grouped by network name, hidden networks aside; each group is judged, and
the judged sightings are listed under the keys of their protocols. Nothing is kept from one batch
to the next.

The groups may be judged in any order: `Policy.entriesOfGroups` takes them as a list, and
`Policy.entries` gives it one particular order.
-/

namespace WifiRoster.Policy

/-- The entries of groups that are judged in the given order. -/
def entriesOfGroups (policy : Policy) (saved : Option ProfileIndex)
    (groups : List (String × List Sighting)) : EntryMap :=
  .ofVerdicts (policy.verdicts saved groups)

/-- The entries of a batch. -/
def entries (policy : Policy) (saved : Option ProfileIndex) (batch : List Sighting) : EntryMap :=
  policy.entriesOfGroups saved (Grouping.ofBatch batch).toList

end WifiRoster.Policy
