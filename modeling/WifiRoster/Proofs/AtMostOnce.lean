import Mathlib.Data.List.Nodup
import WifiRoster.Proofs.OneChoice

/-!
# Listed at most once

In single selection every position of a scan is listed at most once in the whole map. That it does
not stand twice under one key is the order of `listing`, and holds in both modes. That it does not
stand under two keys is `eq_of_under`: a sighting has the name of its keys, and what a platform can
use of one beacon is of one family, of which a name goes by one protocol. The last row of the table
alone would not give this, since it lists a beacon under all of its usable protocols; it takes the
classification of descriptors, whose rows never mix families.
-/

namespace WifiRoster

/-- The positions that are listed under the keys of the map, key by key. -/
def EntryMap.positions (entries : EntryMap) : List Nat :=
  entries.keys.flatMap fun key => (entries.under key).map (·.position)

/-- A scan has one sighting at a position. -/
lemma Sighting.eq_of_position {scan : List Observation} {sighting other : Sighting}
    (hmem : sighting ∈ Sighting.ofScan scan) (hother : other ∈ Sighting.ofScan scan)
    (same : sighting.position = other.position) : sighting = other := by
  obtain ⟨position, observation⟩ := sighting
  obtain ⟨_, second⟩ := other
  obtain rfl : position = _ := same
  have hfirst := Sighting.mem_ofScan.1 hmem
  rw [Sighting.mem_ofScan.1 hother] at hfirst
  cases hfirst
  rfl

namespace Policy

variable {policy : Policy} {platform : Platform} {saved : Option ProfileIndex}
  {batch : List Sighting} {scan : List Observation}

/-- A position is listed when the sighting there bears a name and something is chosen for it. -/
lemma mem_positions {position : Nat} :
    position ∈ (policy.entries saved (Sighting.ofScan scan)).positions ↔
      ∃ observation, scan[position]? = some observation ∧ observation.name ≠ "" ∧
        ∃ p, p ∈ policy.chosen saved (Sighting.ofScan scan) ⟨position, observation⟩ := by
  simp only [EntryMap.positions, List.mem_flatMap, Std.ExtTreeMap.mem_keys, List.mem_map]
  constructor
  · rintro ⟨key, -, ⟨_, observation⟩, hkey, rfl⟩
    obtain ⟨hname, hscan, same, hchosen⟩ := mem_under.1 hkey
    exact ⟨observation, Sighting.mem_ofScan.1 hscan, same.trans_ne hname, key.protocol, hchosen⟩
  · rintro ⟨observation, hscan, hname, p, hchosen⟩
    have hkey : ⟨position, observation⟩ ∈
        (policy.entries saved (Sighting.ofScan scan)).under ⟨observation.name, p⟩ :=
      mem_under.2 ⟨hname, Sighting.mem_ofScan.2 hscan, rfl, hchosen⟩
    exact ⟨_, mem_entries_iff_under.2 ⟨_, hkey⟩, _, hkey, rfl⟩

/-- No position stands twice under one key. -/
lemma nodup_under (key : EntryKey) :
    (((policy.entries saved (Sighting.ofScan scan)).under key).map (·.position)).Nodup := by
  rw [under_entries]
  exact List.pairwise_map.2 ((pairwise_listing scan).imp Nat.ne_of_lt)

/-- In single selection no sighting stands under two keys. -/
lemma eq_of_under {sighting : Sighting} {key other : EntryKey}
    (hkey : sighting ∈ ((⟨.single, platform⟩ : Policy).entries saved batch).under key)
    (hother : sighting ∈ ((⟨.single, platform⟩ : Policy).entries saved batch).under other) :
    key = other := by
  obtain ⟨-, -, same, lists⟩ := mem_under_single.1 hkey
  obtain ⟨-, -, same', lists'⟩ := mem_under_single.1 hother
  obtain ⟨name, p⟩ := key
  obtain ⟨_, q⟩ := other
  obtain rfl : sighting.name = name := same
  obtain rfl : sighting.name = _ := same'
  obtain rfl : p = q := lists.unique lists' (sighting.oneFamily_usable platform)
  rfl

/-- In single selection a scan is attributed at most once. Of the positions under all keys of the
map none comes twice, neither under two keys nor under one; and a position is among them exactly
when its observation bears a name and some protocol is chosen for it. -/
theorem positions_nodup (platform : Platform) (saved : Option ProfileIndex)
    (scan : List Observation) :
    let policy : Policy := ⟨.single, platform⟩
    let positions := (policy.entries saved (Sighting.ofScan scan)).positions
    positions.Nodup ∧
      ∀ position, position ∈ positions ↔
        ∃ observation, scan[position]? = some observation ∧ observation.name ≠ "" ∧
          ∃ p, p ∈ policy.chosen saved (Sighting.ofScan scan) ⟨position, observation⟩ := by
  intro policy positions
  refine ⟨List.nodup_flatMap.2 ⟨fun key _ => nodup_under key, ?_⟩, fun _ => mem_positions⟩
  refine Std.ExtTreeMap.nodup_keys.imp fun differ => List.disjoint_left.2 ?_
  intro position hkey hother
  obtain ⟨sighting, hsighting, rfl⟩ := List.mem_map.1 hkey
  obtain ⟨sibling, hsibling, same⟩ := List.mem_map.1 hother
  -- the lists hold the same sighting, since they hold the same position
  obtain ⟨-, hscan, -⟩ := mem_under.1 hsighting
  obtain ⟨-, hscan', -⟩ := mem_under.1 hsibling
  obtain rfl := Sighting.eq_of_position hscan' hscan same
  exact differ (eq_of_under hsighting hsibling)

end Policy

end WifiRoster
