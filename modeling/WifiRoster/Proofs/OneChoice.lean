import WifiRoster.Proofs.Pointwise
import WifiRoster.Proofs.Selection

/-!
# One choice per family

In single selection every sighting of a name is judged under the presence of the whole batch, and
that presence favours one protocol of each family. `mem_chosen_single` carries the closed form of
the table over to sightings, `mem_under_single` and `mem_entries_single` to a map and its keys. The
main statement, `one_key_per_family`, is what a person sees of it: a network is never offered under
both of its personal protocols, nor under both of its unlocked ones.
-/

namespace WifiRoster

/-- The protocols of a sighting are in range in its batch. -/
lemma Presence.inBatch_covers {batch : List Sighting} {sighting : Sighting}
    (hmem : sighting ∈ batch) (saved : Option ProfileIndex) :
    (Presence.inBatch batch saved sighting.name).Covers sighting.protocols where
  psk h := Sighting.inRange_iff.2 ⟨sighting, hmem, rfl, h⟩
  sae h := Sighting.inRange_iff.2 ⟨sighting, hmem, rfl, h⟩
  owe h := Sighting.inRange_iff.2 ⟨sighting, hmem, rfl, h⟩
  unsecured h := Sighting.inRange_iff.2 ⟨sighting, hmem, rfl, h⟩

/-- The presence of a name covers what can be used of each of its sightings. -/
lemma Presence.inBatch_covers_usable {batch : List Sighting} {sighting : Sighting}
    (hmem : sighting ∈ batch) (saved : Option ProfileIndex) (platform : Platform) :
    (Presence.inBatch batch saved sighting.name).Covers (platform.usable sighting.protocols) :=
  (Presence.inBatch_covers hmem saved).mono fun _ h => (Platform.mem_usable.1 h).1

/-- A name goes by SAE if SAE is in range, PSK is not saved, and either SAE is saved or nothing of
the name offers PSK. -/
lemma Presence.favoursSae_iff {batch : List Sighting} {saved : Option ProfileIndex}
    {name : String} :
    (Presence.inBatch batch saved name).favoursSae = true ↔
      isSaved saved ⟨name, .psk⟩ = false ∧
        (isSaved saved ⟨name, .sae⟩ = true ∨ Sighting.inRange batch name .psk = false) ∧
        Sighting.inRange batch name .sae = true := by
  simp [Presence.favoursSae, Presence.inBatch, and_assoc]

/-- A name goes by OWE if OWE is in range and an open profile does not speak against it. -/
lemma Presence.favoursOwe_iff {batch : List Sighting} {saved : Option ProfileIndex}
    {name : String} :
    (Presence.inBatch batch saved name).favoursOwe = true ↔
      (isSaved saved ⟨name, .owe⟩ = true ∨ isSaved saved ⟨name, .unsecured⟩ = false) ∧
        Sighting.inRange batch name .owe = true := by
  simp [Presence.favoursOwe, Presence.inBatch]

namespace Policy

variable {platform : Platform} {saved : Option ProfileIndex} {batch : List Sighting}

/-- What a sighting is listed under in single selection, told protocol by protocol. -/
lemma mem_chosen_single {sighting : Sighting} (hmem : sighting ∈ batch) (p : Protocol) :
    p ∈ (⟨.single, platform⟩ : Policy).chosen saved batch sighting ↔
      (Presence.inBatch batch saved sighting.name).Lists
        (platform.usable sighting.protocols) p :=
  mem_singleSelection (Presence.inBatch_covers_usable hmem saved platform)
    (sighting.oneFamily_usable platform) p

/-- Where the families that a sighting can be listed in have the same favourites, the sighting is
listed under the same protocols, whatever else is in range or saved. -/
lemma chosen_congr {part : List Sighting} {other : Option ProfileIndex} {sighting : Sighting}
    (hpart : sighting ∈ part) (hmem : sighting ∈ batch)
    (same : ∀ p, (platform.usable sighting.protocols).Admits p →
      (Presence.inBatch part other sighting.name).favourite p.family =
        (Presence.inBatch batch saved sighting.name).favourite p.family) :
    (⟨.single, platform⟩ : Policy).chosen other part sighting =
      (⟨.single, platform⟩ : Policy).chosen saved batch sighting := by
  apply ProtocolSet.ext
  intro p
  rw [mem_chosen_single hpart, mem_chosen_single hmem, Presence.lists_iff, Presence.lists_iff]
  refine and_congr_right fun admits => ?_
  rw [same p admits]

/-- What stands under a key of a map in single selection. -/
lemma mem_under_single {sighting : Sighting} {key : EntryKey} :
    sighting ∈ ((⟨.single, platform⟩ : Policy).entries saved batch).under key ↔
      key.name ≠ "" ∧ sighting ∈ batch ∧ sighting.name = key.name ∧
        (Presence.inBatch batch saved key.name).Lists
          (platform.usable sighting.protocols) key.protocol := by
  rw [mem_under]
  refine and_congr_right fun _ => and_congr_right fun hmem => and_congr_right fun hsame => ?_
  rw [mem_chosen_single hmem, hsame]

/-- The keys of a map in single selection. -/
lemma mem_entries_single {key : EntryKey} :
    key ∈ (⟨.single, platform⟩ : Policy).entries saved batch ↔
      key.name ≠ "" ∧ ∃ sighting ∈ batch, sighting.name = key.name ∧
        (Presence.inBatch batch saved key.name).Lists
          (platform.usable sighting.protocols) key.protocol := by
  rw [mem_entries_iff_under]
  simp only [mem_under_single]
  constructor
  · rintro ⟨sighting, hname, hmem, same, lists⟩
    exact ⟨hname, sighting, hmem, same, lists⟩
  · rintro ⟨hname, sighting, hmem, same, lists⟩
    exact ⟨sighting, hname, hmem, same, lists⟩

/-- Where a name goes by PSK, the beacons that offer PSK are listed under it. -/
lemma exists_under_psk {name : String} (hname : name ≠ "")
    (plain : (Presence.inBatch batch saved name).favoursSae = false)
    (range : Sighting.inRange batch name .psk = true) :
    ∃ sighting ∈ ((⟨.single, platform⟩ : Policy).entries saved batch).under ⟨name, .psk⟩,
      .psk ∈ sighting.protocols := by
  obtain ⟨sighting, hmem, same, hoffers⟩ := Sighting.inRange_iff.1 range
  have usable : .psk ∈ platform.usable sighting.protocols :=
    Platform.mem_usable_iff.2 ⟨hoffers, rfl⟩
  exact ⟨sighting, mem_under_single.2 ⟨hname, hmem, same, .inl usable, plain⟩, hoffers⟩

/-- A network is never offered under both personal protocols, nor under both unlocked ones. -/
theorem one_key_per_family (platform : Platform) (saved : Option ProfileIndex)
    (batch : List Sighting) (name : String) :
    let entries := (⟨.single, platform⟩ : Policy).entries saved batch
    ¬ ((⟨name, .psk⟩ : EntryKey) ∈ entries ∧ (⟨name, .sae⟩ : EntryKey) ∈ entries) ∧
      ¬ ((⟨name, .unsecured⟩ : EntryKey) ∈ entries ∧ (⟨name, .owe⟩ : EntryKey) ∈ entries) := by
  intro entries
  -- two keys may come from different beacons, but both are told by the presence of the name
  have apart {p q : Protocol} (hp : (⟨name, p⟩ : EntryKey) ∈ entries)
      (hq : (⟨name, q⟩ : EntryKey) ∈ entries) (same : p.family = q.family) : p = q := by
    obtain ⟨-, _, -, -, hlists⟩ := mem_entries_single.1 hp
    obtain ⟨-, _, -, -, hother⟩ := mem_entries_single.1 hq
    exact hlists.family_inj hother same
  constructor
  · rintro ⟨hpsk, hsae⟩
    cases apart hpsk hsae rfl
  · rintro ⟨hopen, howe⟩
    cases apart hopen howe rfl

end Policy

end WifiRoster
