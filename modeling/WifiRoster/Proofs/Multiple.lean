import Mathlib.Data.List.Basic
import WifiRoster.Proofs.OneChoice

/-!
# Multiple selection

In multiple selection a sighting is judged by itself: neither its siblings nor saved profiles are
looked at (`listing_multiple`). So attribution carries appended scans to appended lists
(`under_append`), and a sighting is left out only if the platform can use nothing of it
(`unlisted_multiple_iff`). `multiple_append` has both.

Single selection then chooses among the keys of multiple selection. A sighting that it lists under
a key stands there in multiple selection as well, and it is the name that decides which of these
sightings stay: all of them where the name goes by the protocol of the key, none where it does not,
except that beacons with OWE alone never stay (`under_single_eq_filter`). So each list of single
selection is a part of the same list in multiple selection (`single_refines_multiple`).
-/

namespace WifiRoster

/-- The sighting at a position that is later by the given number. -/
def Sighting.shift (offset : Nat) (sighting : Sighting) : Sighting :=
  { sighting with position := offset + sighting.position }

/-- The second of two scans goes on with the positions where the first has ended. -/
lemma Sighting.ofScan_append (scan later : List Observation) :
    Sighting.ofScan (scan ++ later) =
      Sighting.ofScan scan ++ (Sighting.ofScan later).map (Sighting.shift scan.length) := by
  have numbered : later.zipIdx scan.length =
      later.zipIdx.map fun entry => (entry.1, scan.length + entry.2) :=
    List.zipIdx_eq_map_add
  simp only [Sighting.ofScan, List.zipIdx_append, List.map_append, Nat.zero_add, numbered,
    List.map_map]
  rfl

/-- What a beacon can be listed under in single selection is what it is listed under in multiple
selection, OWE alone aside. -/
lemma ProtocolSet.admits_iff_multiple {usable : ProtocolSet} {p : Protocol} :
    usable.Admits p ↔ p ∈ multipleSelection usable ∧ (p = .owe → .unsecured ∈ usable) := by
  rw [mem_multipleSelection]
  cases p with
  | psk => by_cases hpsk : .psk ∈ usable <;> simp [ProtocolSet.Admits, hpsk]
  | _ => simp [ProtocolSet.Admits]

namespace Policy

variable {platform : Platform} {saved other : Option ProfileIndex} {batch : List Sighting}

/-- In multiple selection what belongs under a key is picked from the batch one by one. -/
lemma listing_multiple (key : EntryKey) :
    (⟨.multiple, platform⟩ : Policy).listing saved batch key =
      if key.name.isEmpty then []
      else batch.filter fun sighting => sighting.name = key.name &&
        (multipleSelection (platform.usable sighting.protocols)).contains key.protocol :=
  rfl

/-- What stands under a key of a map in multiple selection. -/
lemma mem_under_multiple {sighting : Sighting} {key : EntryKey} :
    sighting ∈ ((⟨.multiple, platform⟩ : Policy).entries saved batch).under key ↔
      key.name ≠ "" ∧ sighting ∈ batch ∧ sighting.name = key.name ∧
        key.protocol ∈ multipleSelection (platform.usable sighting.protocols) :=
  mem_under

/-- Positions do not matter to where a sighting belongs. -/
lemma listing_map_shift (offset : Nat) (key : EntryKey) :
    (⟨.multiple, platform⟩ : Policy).listing saved (batch.map (Sighting.shift offset)) key =
      ((⟨.multiple, platform⟩ : Policy).listing saved batch key).map (Sighting.shift offset) := by
  rw [listing_multiple, listing_multiple]
  split
  · rfl
  · rw [List.filter_map]
    rfl

/-- What stands under a key for two scans in one is what stands there for the first, followed by what
stands there for the second. -/
lemma under_append (scan later : List Observation) (key : EntryKey) :
    ((⟨.multiple, platform⟩ : Policy).entries saved (Sighting.ofScan (scan ++ later))).under key =
      ((⟨.multiple, platform⟩ : Policy).entries other (Sighting.ofScan scan)).under key ++
        (((⟨.multiple, platform⟩ : Policy).entries other
          (Sighting.ofScan later)).under key).map (Sighting.shift scan.length) := by
  rw [under_entries, under_entries, under_entries, ← listing_map_shift, Sighting.ofScan_append]
  simp only [listing_multiple]
  split
  · rfl
  · exact List.filter_append _ _

/-- A named sighting is left out exactly if nothing of what it offers is usable. -/
lemma unlisted_multiple_iff {sighting : Sighting} (hmem : sighting ∈ batch)
    (hname : sighting.name ≠ "") :
    (∀ key, sighting ∉ ((⟨.multiple, platform⟩ : Policy).entries saved batch).under key) ↔
      ∀ p ∈ sighting.protocols, p ∈ platform.unsupported := by
  constructor
  · intro unlisted p hp
    refine Decidable.not_not.1 fun supported => unlisted ⟨sighting.name, p⟩ ?_
    have usable : p ∈ platform.usable sighting.protocols := Platform.mem_usable.2 ⟨hp, supported⟩
    exact mem_under_multiple.2 ⟨hname, hmem, rfl, mem_multipleSelection.2 (.inl usable)⟩
  · intro unsupported key hkey
    have unusable (q : Protocol) : q ∉ platform.usable sighting.protocols := by
      intro usable
      obtain ⟨offered, supported⟩ := Platform.mem_usable.1 usable
      exact supported (unsupported q offered)
    obtain ⟨-, -, -, hchosen⟩ := mem_under_multiple.1 hkey
    -- PSK is added to usable SAE only
    obtain usable | ⟨-, usable, -⟩ := mem_multipleSelection.1 hchosen
    · exact unusable _ usable
    · exact unusable _ usable

/-- Multiple selection attributes scan by scan and misses nothing usable. Whatever is saved, the list
under a key for two scans in one is the list for the first, followed by the list for the second in
the positions that it has in the whole; and a sighting that bears a name is listed under no key
exactly if the platform supports none of the protocols that it offers. -/
theorem multiple_append (platform : Platform) (saved other : Option ProfileIndex) :
    let policy : Policy := ⟨.multiple, platform⟩
    (∀ scan later key,
      (policy.entries saved (Sighting.ofScan (scan ++ later))).under key =
        (policy.entries other (Sighting.ofScan scan)).under key ++
          ((policy.entries other (Sighting.ofScan later)).under key).map
            (Sighting.shift scan.length)) ∧
    ∀ batch, ∀ sighting ∈ batch, sighting.name ≠ "" →
      ((∀ key, sighting ∉ (policy.entries saved batch).under key) ↔
        ∀ p ∈ sighting.protocols, p ∈ platform.unsupported) := by
  intro policy
  constructor
  · exact under_append
  · intro batch sighting hmem hname
    exact unlisted_multiple_iff hmem hname

/-- A network that two scans share, on a platform without SAE: a beacon with SAE alone is left out,
and one that has PSK beside comes behind the beacon of the first scan. -/
theorem multiple_append_home :
    let policy : Policy := ⟨.multiple, ⟨false, true, true⟩⟩
    let scan : List Observation := [⟨"Home", some "[WPA2-PSK-CCMP]", -40⟩]
    let later : List Observation :=
      [⟨"Home", some "[RSN-SAE-CCMP]", -70⟩, ⟨"Home", some "[RSN-PSK+SAE-CCMP]", -60⟩]
    let whole := Sighting.ofScan (scan ++ later)
    let strong : Sighting := ⟨1, "Home", some "[RSN-SAE-CCMP]", -70⟩
    strong ∈ whole ∧ strong.name ≠ "" ∧ (∀ key, strong ∉ (policy.entries none whole).under key) ∧
      ((policy.entries none whole).under ⟨"Home", .psk⟩).map (·.position) = [0, 2] := by
  intro policy scan later whole strong
  have hmem : strong ∈ whole := .tail _ (.head _)
  have unsupported : ∀ p ∈ strong.protocols, p ∈ policy.platform.unsupported := by
    intro p hp
    obtain rfl : p = .sae := ProtocolSet.mem_single.1 hp
    decide
  have append := multiple_append policy.platform none none
  refine ⟨hmem, by decide, (append.2 whole strong hmem (by decide)).2 unsupported, ?_⟩
  rw [append.1]
  decide

/-- Single selection lists a sighting under a protocol that multiple selection lists it under, if the
name goes by that protocol; under OWE the sighting has to be open too. -/
lemma mem_chosen_single_iff_multiple {sighting : Sighting} (hmem : sighting ∈ batch)
    (p : Protocol) :
    p ∈ (⟨.single, platform⟩ : Policy).chosen saved batch sighting ↔
      p ∈ multipleSelection (platform.usable sighting.protocols) ∧
        (Presence.inBatch batch saved sighting.name).favourite p.family = p ∧
        (p = .owe → .unsecured ∈ platform.usable sighting.protocols) := by
  rw [mem_chosen_single hmem, Presence.lists_iff, ProtocolSet.admits_iff_multiple, and_assoc]
  exact and_congr_right fun _ => and_comm

/-- A list of single selection is what the name's favourite leaves of the same list in multiple
selection. -/
lemma under_single_eq_filter (key : EntryKey) :
    ((⟨.single, platform⟩ : Policy).entries saved batch).under key =
      (((⟨.multiple, platform⟩ : Policy).entries other batch).under key).filter fun sighting =>
        (Presence.inBatch batch saved key.name).favourite key.protocol.family = key.protocol ∧
          (key.protocol = .owe → .unsecured ∈ platform.usable sighting.protocols) := by
  rw [under_entries, under_entries, listing_multiple, listing]
  split
  · rfl
  · rw [List.filter_filter]
    refine List.filter_congr fun sighting hmem => ?_
    rw [Bool.eq_iff_iff, Bool.and_eq_true, Bool.and_eq_true, Bool.and_eq_true, decide_eq_true_eq,
      decide_eq_true_eq, ← ProtocolSet.mem_iff, ← ProtocolSet.mem_iff,
      mem_chosen_single_iff_multiple hmem]
    constructor
    · rintro ⟨same, hchosen, goes, hopen⟩
      exact ⟨⟨same ▸ goes, hopen⟩, same, hchosen⟩
    · rintro ⟨⟨goes, hopen⟩, same, hchosen⟩
      exact ⟨same, hchosen, same ▸ goes, hopen⟩

/-- Single selection refines multiple selection. Whatever is saved in either, each list of single
selection consists of sightings of the same list in multiple selection, in the same order, and each
of its keys is a key of multiple selection. -/
theorem single_refines_multiple (platform : Platform) (saved other : Option ProfileIndex)
    (batch : List Sighting) :
    let offered := (⟨.single, platform⟩ : Policy).entries saved batch
    let usable := (⟨.multiple, platform⟩ : Policy).entries other batch
    (∀ key, (offered.under key).Sublist (usable.under key)) ∧ ∀ key ∈ offered, key ∈ usable := by
  intro offered usable
  have part (key : EntryKey) : (offered.under key).Sublist (usable.under key) := by
    rw [under_single_eq_filter]
    exact List.filter_sublist
  refine ⟨part, fun key hkey => ?_⟩
  obtain ⟨sighting, hsighting⟩ := mem_entries_iff_under.1 hkey
  exact mem_entries_iff_under.2 ⟨sighting, (part key).subset hsighting⟩

/-- A beacon with SAE alone under the PSK key of its network, which it owes to a sibling in single
selection and to the addition of PSK in multiple selection. -/
theorem single_refines_multiple_home :
    let batch := Sighting.ofScan
      [⟨"Home", some "[WPA2-PSK-CCMP]", -40⟩, ⟨"Home", some "[RSN-SAE-CCMP]", -70⟩]
    let strong : Sighting := ⟨1, "Home", some "[RSN-SAE-CCMP]", -70⟩
    let key : EntryKey := ⟨"Home", .psk⟩
    strong ∈ ((⟨.single, .full⟩ : Policy).entries none batch).under key ∧
      strong ∈ ((⟨.multiple, .full⟩ : Policy).entries none batch).under key ∧
      key ∈ (⟨.single, .full⟩ : Policy).entries none batch ∧
      key ∈ (⟨.multiple, .full⟩ : Policy).entries none batch := by
  intro batch strong key
  have hkey : strong ∈ ((⟨.single, .full⟩ : Policy).entries none batch).under key := by decide
  have hentry := mem_entries_iff_under.2 ⟨strong, hkey⟩
  have refines := single_refines_multiple .full none none batch
  exact ⟨hkey, (refines.1 key).subset hkey, hentry, refines.2 key hentry⟩

end Policy

end WifiRoster
