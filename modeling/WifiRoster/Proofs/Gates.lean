import WifiRoster.Proofs.Multiple

/-!
# Gates in multiple selection

A platform that lacks a protocol lists fewer sightings. Of two platforms, one of which lacks all
that the other lacks, the first lists under each key those sightings of the second that have the
key's protocol, or SAE under a PSK key, still usable (`under_eq_filter`). What this leaves of a list
is all or nothing, except under PSK: closing the SAE gate takes away the sightings that are there
for their SAE, and leaves those that offer PSK themselves. `multiple_gated` compares a platform with
one that supports everything in this way, key by key.

Single selection has no such law. There a closed gate can bring a sighting under a key where it was
not before.
-/

namespace WifiRoster

/-- Whether one platform lacks everything that another lacks. -/
def Platform.Within (narrow wide : Platform) : Prop :=
  ∀ p ∈ wide.unsupported, p ∈ narrow.unsupported

/-- Every platform is within the full one. -/
lemma Platform.within_full (platform : Platform) : platform.Within .full := by
  intro p hp
  rw [Platform.mem_unsupported] at hp
  simp [Platform.full] at hp

/-- What can be used on a platform can be used on a wider one. -/
lemma Platform.Within.mem_usable {narrow wide : Platform} (within : narrow.Within wide)
    {protocols : ProtocolSet} {p : Protocol} (hp : p ∈ narrow.usable protocols) :
    p ∈ wide.usable protocols := by
  obtain ⟨offered, supported⟩ := Platform.mem_usable.1 hp
  exact Platform.mem_usable.2 ⟨offered, fun lacking => supported (within p lacking)⟩

/-- PSK has no gate. -/
lemma Platform.psk_supported (platform : Platform) : .psk ∉ platform.unsupported := by
  intro lacking
  rw [Platform.mem_unsupported] at lacking
  simp at lacking

/-- In multiple selection a beacon is listed under PSK for its PSK or for its SAE, and under any
other protocol for that protocol. -/
lemma mem_multipleSelection_of_ne {usable : ProtocolSet} {p : Protocol} (other : p ≠ .psk) :
    p ∈ multipleSelection usable ↔ p ∈ usable := by
  rw [mem_multipleSelection]
  exact or_iff_left fun added => other added.1

/-- WPA2-Personal is selected for itself and for WPA3-Personal. -/
lemma psk_mem_multipleSelection {usable : ProtocolSet} :
    .psk ∈ multipleSelection usable ↔ .psk ∈ usable ∨ .sae ∈ usable := by
  rw [mem_multipleSelection]
  by_cases hpsk : .psk ∈ usable
  · exact iff_of_true (.inl hpsk) (.inl hpsk)
  · simp [hpsk]

/-- What is selected from a part is selected from the whole. -/
lemma multipleSelection_mono {part usable : ProtocolSet} (sub : ∀ p ∈ part, p ∈ usable)
    {p : Protocol} (hp : p ∈ multipleSelection part) : p ∈ multipleSelection usable := by
  by_cases hpsk : p = .psk
  · subst hpsk
    exact psk_mem_multipleSelection.2 ((psk_mem_multipleSelection.1 hp).imp (sub _) (sub _))
  · rw [mem_multipleSelection_of_ne hpsk] at hp ⊢
    exact sub p hp

namespace Policy

variable {platform narrow wide : Platform} {saved : Option ProfileIndex} {batch : List Sighting}

/-- What a platform lists is what remains of the lists of a platform that lacks less. -/
lemma under_eq_filter (within : narrow.Within wide) (key : EntryKey) :
    ((⟨.multiple, narrow⟩ : Policy).entries saved batch).under key =
      (((⟨.multiple, wide⟩ : Policy).entries saved batch).under key).filter fun sighting =>
        key.protocol ∈ multipleSelection (narrow.usable sighting.protocols) := by
  rw [under_entries, under_entries, listing_multiple, listing_multiple]
  split
  · rfl
  · rw [List.filter_filter]
    refine List.filter_congr fun sighting _ => ?_
    rw [Bool.eq_iff_iff, Bool.and_eq_true, Bool.and_eq_true, Bool.and_eq_true, decide_eq_true_eq,
      decide_eq_true_eq, ← ProtocolSet.mem_iff, ← ProtocolSet.mem_iff]
    constructor
    · rintro ⟨same, hnarrow⟩
      exact ⟨hnarrow, same, multipleSelection_mono (fun _ => within.mem_usable) hnarrow⟩
    · rintro ⟨hnarrow, same, -⟩
      exact ⟨same, hnarrow⟩

/-- Under a protocol that the platform supports, and that is listed for itself only, nothing is
missing. -/
lemma under_eq_of_supported {key : EntryKey} (supported : key.protocol ∉ platform.unsupported)
    (other : key.protocol ≠ .psk) :
    ((⟨.multiple, platform⟩ : Policy).entries saved batch).under key =
      ((⟨.multiple, .full⟩ : Policy).entries saved batch).under key := by
  rw [under_eq_filter platform.within_full, List.filter_eq_self]
  intro sighting hkey
  obtain ⟨-, -, -, hchosen⟩ := mem_under_multiple.1 hkey
  rw [mem_multipleSelection_of_ne other, Platform.usable_full] at hchosen
  rw [decide_eq_true_eq, mem_multipleSelection_of_ne other]
  exact Platform.mem_usable.2 ⟨hchosen, supported⟩

/-- Under PSK the sightings are missing that owe their place to SAE, if the platform lacks SAE. -/
lemma under_psk (name : String) :
    ((⟨.multiple, platform⟩ : Policy).entries saved batch).under ⟨name, .psk⟩ =
      if .sae ∈ platform.unsupported then
        (((⟨.multiple, .full⟩ : Policy).entries saved batch).under ⟨name, .psk⟩).filter
          fun sighting => .psk ∈ sighting.protocols
      else ((⟨.multiple, .full⟩ : Policy).entries saved batch).under ⟨name, .psk⟩ := by
  rw [under_eq_filter platform.within_full]
  have usable {sighting : Sighting} : .psk ∈ platform.usable sighting.protocols ↔
      .psk ∈ sighting.protocols := by
    rw [Platform.mem_usable]
    exact and_iff_left platform.psk_supported
  split
  · next lacking =>
    refine List.filter_congr fun sighting _ => ?_
    rw [decide_eq_decide, psk_mem_multipleSelection, usable]
    exact or_iff_left fun hsae => (Platform.mem_usable.1 hsae).2 lacking
  · next supported =>
    rw [List.filter_eq_self]
    intro sighting hkey
    obtain ⟨-, -, -, hchosen⟩ := mem_under_multiple.1 hkey
    rw [Platform.usable_full, psk_mem_multipleSelection] at hchosen
    rw [decide_eq_true_eq, psk_mem_multipleSelection, usable]
    exact hchosen.imp_right fun hsae => Platform.mem_usable.2 ⟨hsae, supported⟩

/-- Maps with the same list under a key have the same entry for it. -/
lemma getElem?_eq_of_under {policy other : Policy} {profiles : Option ProfileIndex}
    {second : List Sighting} {key : EntryKey}
    (same : (policy.entries saved batch).under key = (other.entries profiles second).under key) :
    (policy.entries saved batch)[key]? = (other.entries profiles second)[key]? := by
  rw [under_entries, under_entries] at same
  rw [getElem?_entries, getElem?_entries, same]

/-- A platform compared with one that supports everything, in multiple selection. There is no key
with a protocol that the platform lacks, and under every other protocol but PSK the maps agree.
Under PSK they have the same list if the platform supports SAE, and otherwise the platform's list is
the full one without the sightings that do not offer PSK. A key is in the map as long as something
is left under it. And no platform lists more than one that lacks less. -/
theorem multiple_gated (platform : Platform) (saved : Option ProfileIndex)
    (batch : List Sighting) :
    let gated := (⟨.multiple, platform⟩ : Policy).entries saved batch
    let full := (⟨.multiple, .full⟩ : Policy).entries saved batch
    (∀ key : EntryKey, key.protocol ∈ platform.unsupported → key ∉ gated) ∧
    (∀ key : EntryKey, key.protocol ∉ platform.unsupported → key.protocol ≠ .psk →
      gated[key]? = full[key]?) ∧
    (∀ name, gated.under ⟨name, .psk⟩ =
      if .sae ∈ platform.unsupported then
        (full.under ⟨name, .psk⟩).filter fun sighting => .psk ∈ sighting.protocols
      else full.under ⟨name, .psk⟩) ∧
    (∀ key, key ∈ gated ↔ gated.under key ≠ []) ∧
    ∀ wide, platform.Within wide → ∀ key,
      (gated.under key).Sublist (((⟨.multiple, wide⟩ : Policy).entries saved batch).under key) := by
  intro gated full
  refine ⟨?_, ?_, under_psk, fun _ => mem_entries_iff_ne_nil, ?_⟩
  · intro key lacking hkey
    obtain ⟨sighting, hlisted⟩ := mem_entries_iff_under.1 hkey
    obtain ⟨-, -, -, hchosen⟩ := mem_under_multiple.1 hlisted
    -- PSK cannot be lacking, so the key is there for its own protocol
    have other : key.protocol ≠ .psk := by
      intro hpsk
      rw [hpsk] at lacking
      exact platform.psk_supported lacking
    rw [mem_multipleSelection_of_ne other] at hchosen
    exact (Platform.mem_usable.1 hchosen).2 lacking
  · intro key supported other
    exact getElem?_eq_of_under (under_eq_of_supported supported other)
  · intro wide within key
    rw [under_eq_filter within]
    exact List.filter_sublist

/-- Three beacons of one network on a platform without SAE: the one with SAE alone loses its place
under PSK, and the one with both protocols keeps it. -/
theorem multiple_gated_home :
    let platform : Platform := ⟨false, true, true⟩
    let batch := Sighting.ofScan
      [⟨"Home", some "[WPA2-PSK-CCMP]", -40⟩, ⟨"Home", some "[RSN-SAE-CCMP]", -70⟩,
        ⟨"Home", some "[RSN-PSK+SAE-CCMP]", -60⟩]
    let gated := (⟨.multiple, platform⟩ : Policy).entries none batch
    let full := (⟨.multiple, .full⟩ : Policy).entries none batch
    .sae ∈ platform.unsupported ∧ (⟨"Home", .sae⟩ : EntryKey) ∈ full ∧
      (⟨"Home", .sae⟩ : EntryKey) ∉ gated ∧
      gated[(⟨"Home", .wep⟩ : EntryKey)]? = full[(⟨"Home", .wep⟩ : EntryKey)]? ∧
      (full.under ⟨"Home", .psk⟩).map (·.position) = [0, 1, 2] ∧
      (gated.under ⟨"Home", .psk⟩).map (·.position) = [0, 2] ∧
      (gated.under ⟨"Home", .psk⟩).Sublist (full.under ⟨"Home", .psk⟩) := by
  intro platform batch gated full
  have lacking : .sae ∈ platform.unsupported := by decide
  obtain ⟨absent, same, psk, -, fewer⟩ := multiple_gated platform none batch
  refine ⟨lacking, by decide, absent _ lacking, same _ (by decide) (by decide), by decide, ?_, ?_⟩
  · rw [psk]
    decide
  · exact fewer .full platform.within_full _

end Policy

end WifiRoster
