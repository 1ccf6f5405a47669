import WifiRoster.Proofs.Multiple

/-!
# Why a sighting is listed

A sighting under a key bears the name of the key and, but for one case, has the protocol of the key
among its usable ones. The one case is a beacon with SAE and without PSK under a PSK key. In
multiple selection every such beacon is listed there. In single selection it needs a reason:
`psk_backed` finds a saved PSK profile, or a beacon under the same key that offers PSK itself.
`listed_justified` is the statement for both modes; that no key has a protocol which the platform
cannot use follows from it.
-/

namespace WifiRoster.Policy

variable {platform : Platform} {saved : Option ProfileIndex} {batch : List Sighting}

/-- Where a beacon with SAE is listed under PSK, a PSK profile is saved or a beacon that offers PSK
is listed there too. -/
lemma psk_backed {sighting : Sighting} {name : String}
    (hkey : sighting ∈ ((⟨.single, platform⟩ : Policy).entries saved batch).under ⟨name, .psk⟩)
    (hsae : .sae ∈ platform.usable sighting.protocols) :
    isSaved saved ⟨name, .psk⟩ = true ∨
      ∃ sibling ∈ ((⟨.single, platform⟩ : Policy).entries saved batch).under ⟨name, .psk⟩,
        .psk ∈ sibling.protocols := by
  obtain ⟨hname, hmem, same, -, plain⟩ := mem_under_single.1 hkey
  have range : Sighting.inRange batch name .sae = true :=
    Sighting.inRange_iff.2 ⟨sighting, hmem, same, (Platform.mem_usable.1 hsae).1⟩
  refine Decidable.or_iff_not_imp_left.2 fun unsaved => exists_under_psk hname plain ?_
  -- with SAE in range and PSK not saved, only a beacon with PSK can speak for PSK
  refine eq_true_of_ne_false fun absent => ne_true_of_eq_false plain ?_
  exact Presence.favoursSae_iff.2 ⟨Bool.eq_false_iff.2 unsaved, .inr absent, range⟩

/-- What a protocol that a sighting is listed under has to do with its usable protocols. -/
lemma usable_or_psk_of_chosen {policy : Policy} {sighting : Sighting} (hmem : sighting ∈ batch)
    {p : Protocol} (hchosen : p ∈ policy.chosen saved batch sighting) :
    p ∈ policy.platform.usable sighting.protocols ∨
      p = .psk ∧ .sae ∈ policy.platform.usable sighting.protocols ∧
        .psk ∉ policy.platform.usable sighting.protocols := by
  obtain ⟨mode, platform⟩ := policy
  cases mode with
  | multiple => exact mem_multipleSelection.1 hchosen
  | single =>
    -- single selection chooses among what multiple selection lists
    obtain ⟨hmultiple, -⟩ := (mem_chosen_single_iff_multiple hmem p).1 hchosen
    exact mem_multipleSelection.1 hmultiple

/-- Whatever is listed is justified. A sighting under a key is one of the batch and bears the name
of the key, which is not empty; the protocol of the key is usable with it, or it is PSK and the
sighting has usable SAE without PSK. In single selection the latter happens only where a PSK profile
is saved or another sighting under the key offers PSK itself. No key has a protocol that the
platform cannot use. -/
theorem listed_justified (policy : Policy) (saved : Option ProfileIndex)
    (batch : List Sighting) :
    let entries := policy.entries saved batch
    (∀ key, ∀ sighting ∈ entries.under key,
      let usable := policy.platform.usable sighting.protocols
      sighting ∈ batch ∧ sighting.name = key.name ∧ key.name ≠ "" ∧
        (key.protocol ∈ usable ∨
          (key.protocol = .psk ∧ .sae ∈ usable ∧ .psk ∉ usable) ∧
            (policy.mode = .single → isSaved saved key = true ∨
              ∃ sibling ∈ entries.under key, .psk ∈ sibling.protocols))) ∧
    ∀ key ∈ entries, key.protocol ∉ policy.platform.unsupported := by
  intro entries
  constructor
  · intro key sighting hkey usable
    obtain ⟨hname, hmem, same, hchosen⟩ := mem_under.1 hkey
    refine ⟨hmem, same, hname, (usable_or_psk_of_chosen hmem hchosen).imp_right fun weak => ?_⟩
    refine ⟨weak, fun single => ?_⟩
    obtain ⟨mode, platform⟩ := policy
    obtain ⟨name, p⟩ := key
    obtain rfl : mode = .single := single
    obtain ⟨rfl, hsae, -⟩ := weak
    exact psk_backed hkey hsae
  · intro key hkey unsupported
    obtain ⟨sighting, hlisted⟩ := mem_entries.1 hkey
    obtain ⟨-, hmem, -, hchosen⟩ := mem_listing.1 hlisted
    obtain usable | ⟨hpsk, -, -⟩ := usable_or_psk_of_chosen hmem hchosen
    · exact (Platform.mem_usable.1 usable).2 unsupported
    · -- PSK has no gate
      rw [hpsk, Platform.mem_unsupported] at unsupported
      simp at unsupported

/-- A beacon with SAE alone beside one with PSK alone, with nothing saved. -/
theorem listed_justified_home :
    let batch := Sighting.ofScan
      [⟨"Home", some "[WPA2-PSK-CCMP]", -40⟩, ⟨"Home", some "[RSN-SAE-CCMP]", -70⟩]
    let entries := (⟨.single, .full⟩ : Policy).entries none batch
    let strong : Sighting := ⟨1, "Home", some "[RSN-SAE-CCMP]", -70⟩
    let key : EntryKey := ⟨"Home", .psk⟩
    strong ∈ entries.under key ∧ key ∈ entries ∧ .psk ∉ Platform.full.usable strong.protocols ∧
      (∃ sibling ∈ entries.under key, .psk ∈ sibling.protocols) ∧
      key.protocol ∉ Platform.full.unsupported := by
  intro batch entries strong key
  have hmem : strong ∈ batch := .tail _ (.head _)
  have lists : (Presence.inBatch batch none "Home").Lists
      (Platform.full.usable strong.protocols) .psk := ⟨.inr (by decide), by decide⟩
  have hkey : strong ∈ entries.under key := mem_under_single.2 ⟨by decide, hmem, rfl, lists⟩
  have hentry : key ∈ entries := mem_entries_single.2 ⟨by decide, strong, hmem, rfl, lists⟩
  have absent : .psk ∉ Platform.full.usable strong.protocols := by decide
  have justified := listed_justified ⟨.single, .full⟩ none batch
  obtain ⟨-, -, -, usable | ⟨-, reason⟩⟩ := justified.1 key strong hkey
  · exact absurd usable absent
  · refine ⟨hkey, hentry, absent, ?_, justified.2 key hentry⟩
    exact (reason rfl).resolve_left (by decide)

end WifiRoster.Policy
