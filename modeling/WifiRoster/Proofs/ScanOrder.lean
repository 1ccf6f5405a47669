import WifiRoster.Proofs.Remapping
import WifiRoster.Proofs.SortedEntries
import WifiRoster.Proofs.Strongest
import WifiRoster.Report

/-!
# The order of a scan

A scan that is received in another order gives the same report, unless details are asked for. The
presence of a name is told by what is in range, in whatever order (`inBatch_of_perm`), and so the
same observations are listed under each key, though maybe in another order (`under_of_perm`). Of a
list the report tells the length and the greatest level (`Entry.line_congr`), neither of which
depends on the order. The details of the strongest sighting do: on a tie the first one gives them.

The orders in which groups and keys are gone through leave no trace either, since the map does not
depend on the former and the entries are sorted.
-/

namespace WifiRoster

section Entries

variable {labels : Labels} {entry other : Entry}

/-- The field of the level depends on the greatest level alone. -/
lemma Entry.levelField_congr
    (level : entry.best.map (·.level) = other.best.map (·.level)) :
    entry.levelField = other.levelField := by
  have told (entry : Entry) : entry.levelField =
      ((entry.best.map (·.level)).map fun level => toString level.toInt ++ " dBm").getD "-" := by
    rw [levelField]
    cases entry.best <;> rfl
  rw [told, told, level]

/-- Without details the descriptions are told by the saved profile. -/
lemma Entry.descriptions_congr (profile : entry.profile = other.profile) :
    entry.descriptions labels false = other.descriptions labels false := by
  simp only [descriptions, autoConnectDescription, meteredDescription, speedDescription,
    verboseDescription, profile]
  rfl

/-- Without details a line is told by the key, the saved profile, the number of sightings and the
greatest level. -/
lemma Entry.line_congr (key : entry.key = other.key) (profile : entry.profile = other.profile)
    (count : entry.count = other.count)
    (level : entry.best.map (·.level) = other.best.map (·.level)) :
    entry.line labels false = other.line labels false := by
  rw [line, line, fields, fields, descriptions_congr profile, levelField_congr level, key, count,
    isSaved, isSaved, profile]

end Entries

section Orders

variable {policy : Policy} {saved : Option ProfileIndex} {batch other : List Sighting}

/-- The same observations in another order make the same presence. -/
lemma Presence.inBatch_of_perm
    (same : (batch.map (·.observation)).Perm (other.map (·.observation))) (name : String) :
    Presence.inBatch batch saved name = Presence.inBatch other saved name := by
  have told (batch : List Sighting) (p : Protocol) : Sighting.inRange batch name p =
      (batch.map (·.observation)).any fun observation =>
        observation.name = name && observation.protocols.contains p := by
    rw [List.any_map]
    rfl
  refine Presence.inBatch_eq (fun p _ => ?_) fun _ _ => rfl
  rw [told, told, same.any_eq]

namespace Policy

/-- So the same observations are listed under each key, in one order or another. -/
lemma under_of_perm (same : (batch.map (·.observation)).Perm (other.map (·.observation)))
    (key : EntryKey) :
    (((policy.entries saved batch).under key).map (·.observation)).Perm
      (((policy.entries saved other).under key).map (·.observation)) := by
  have chosen (observation : Observation) :
      policy.chosen saved batch ⟨0, observation⟩ = policy.chosen saved other ⟨0, observation⟩ :=
    chosen_eq_of_presence (Presence.inBatch_of_perm same _) rfl
  rw [under_entries, under_entries, map_observation_listing, map_observation_listing]
  split
  · exact .nil
  · rw [Sighting.map_observation_named, Sighting.map_observation_named]
    simp only [chosen]
    exact (same.filter _).filter _

/-- In another order of the scan, as many sightings are listed under each key. -/
lemma length_under_of_perm (same : (batch.map (·.observation)).Perm (other.map (·.observation)))
    (key : EntryKey) :
    ((policy.entries saved batch).under key).length =
      ((policy.entries saved other).under key).length := by
  rw [← List.length_map, (under_of_perm same key).length_eq, List.length_map]

/-- In another order of the scan, the map has the same keys. -/
lemma keys_of_perm (same : (batch.map (·.observation)).Perm (other.map (·.observation))) :
    (policy.entries saved batch).keys.Perm (policy.entries saved other).keys := by
  rw [List.perm_ext_iff_of_nodup Std.ExtTreeMap.nodup_keys Std.ExtTreeMap.nodup_keys]
  intro key
  rw [Std.ExtTreeMap.mem_keys, Std.ExtTreeMap.mem_keys, mem_entries_iff_ne_nil,
    mem_entries_iff_ne_nil, ne_eq, ne_eq, ← List.length_eq_zero_iff, ← List.length_eq_zero_iff,
    length_under_of_perm same key]

/-- In another order of the scan, each key has the same line. -/
lemma line_of_perm (same : (batch.map (·.observation)).Perm (other.map (·.observation)))
    (labels : Labels) (key : EntryKey) :
    (Entry.ofKey (policy.entries saved batch) saved key).line labels false =
      (Entry.ofKey (policy.entries saved other) saved key).line labels false := by
  refine Entry.line_congr rfl rfl (length_under_of_perm same key) ?_
  apply Sighting.map_level_strongest?_of_perm
  have levels (listed : List Sighting) :
      listed.map (·.level) = (listed.map (·.observation)).map (·.level) := by
    rw [List.map_map]
    rfl
  rw [levels, levels]
  exact (under_of_perm same key).map _

/-- The report without details does not depend on the order of the scan. Two scans of the same
observations, received in any two orders, give the same text, whatever the orders in which groups
and keys are gone through on either side. -/
theorem report_of_perm (policy : Policy) (saved : Option ProfileIndex) (labels : Labels)
    {scan later : List Observation} (same : scan.Perm later)
    {groups others : List (String × List Sighting)}
    (order : groups.Perm (Grouping.ofBatch (Sighting.ofScan scan)).toList)
    (otherOrder : others.Perm (Grouping.ofBatch (Sighting.ofScan later)).toList)
    {listing relisting : List (EntryKey × List Sighting)}
    (listed : listing.Perm (policy.entriesOfGroups saved groups).toList)
    (relisted : relisting.Perm (policy.entriesOfGroups saved others).toList) :
    report labels false (Entry.ofListing listing saved) =
      report labels false (Entry.ofListing relisting saved) := by
  rw [entriesOfGroups_eq_entries order] at listed
  rw [entriesOfGroups_eq_entries otherOrder] at relisted
  rw [← Sighting.ofScan_observation scan, ← Sighting.ofScan_observation later] at same
  -- both reports go through one list of ordered keys
  rw [report, report, Entry.ofListing_eq_map listed, Entry.ofListing_eq_map relisted,
    EntryKey.sorted_of_perm (keys_of_perm same), List.map_map, List.map_map]
  apply congrArg
  refine List.map_congr_left fun key _ => ?_
  exact line_of_perm same labels key

/-- Two beacons of one network that are equally strong change places. -/
theorem report_of_perm_home :
    let scan : List Observation :=
      [⟨"Home", some "[WPA2-PSK-CCMP]", -40⟩, ⟨"Cafe", none, -50⟩, ⟨"Home", some "[PSK]", -40⟩]
    let later := scan.reverse
    let policy : Policy := ⟨.single, .full⟩
    let groups := (Grouping.ofBatch (Sighting.ofScan scan)).toList.reverse
    let others := (Grouping.ofBatch (Sighting.ofScan later)).toList
    let listing := (policy.entriesOfGroups none groups).toList.reverse
    let relisting := (policy.entriesOfGroups none others).toList
    scan.Perm later ∧ groups.Perm (Grouping.ofBatch (Sighting.ofScan scan)).toList ∧
      listing.Perm (policy.entriesOfGroups none groups).toList ∧
      report .english false (Entry.ofListing listing none) =
        report .english false (Entry.ofListing relisting none) := by
  intro scan later policy groups others listing relisting
  have same : scan.Perm later := (List.reverse_perm scan).symm
  have order : groups.Perm (Grouping.ofBatch (Sighting.ofScan scan)).toList := List.reverse_perm _
  have listed : listing.Perm (policy.entriesOfGroups none groups).toList := List.reverse_perm _
  refine ⟨same, order, listed, ?_⟩
  exact report_of_perm policy none .english same order (.refl _) listed (.refl _)

end Policy

end Orders

end WifiRoster
