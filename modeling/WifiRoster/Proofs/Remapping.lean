import WifiRoster.Proofs.Networks

/-!
# Attributing again what was listed

A map lists some sightings of its batch and drops the others. Attributing only those that it lists
(`Policy.kept`) gives the same map again (`entries_kept`): no sighting owes its keys to one that was
dropped.

In multiple selection this is plain, since sightings are listed each by itself. In single selection
dropped beacons take protocols out of range. But a key of the map has kept sightings that speak for
its protocol, and where the protocol's rival was in range and yet not chosen, it was not chosen for
a reason that stays. So the family of every key keeps its favourite (`favourite_kept`).

The kept sightings keep their positions in the old batch. Numbering them anew makes no difference to
the observations that are listed (`observations_entries_congr`).
-/

namespace WifiRoster

/-- Whether a sighting stands under some key. -/
def EntryMap.isListed (entries : EntryMap) (sighting : Sighting) : Bool :=
  entries.toList.any fun entry => entry.2.contains sighting

/-- The sightings of the batch that the map lists, in batch order. -/
def Policy.kept (policy : Policy) (saved : Option ProfileIndex) (batch : List Sighting) :
    List Sighting :=
  batch.filter (policy.entries saved batch).isListed

/-- A sighting is listed if it is under some key. -/
lemma EntryMap.isListed_iff {entries : EntryMap} {sighting : Sighting} :
    entries.isListed sighting = true ↔ ∃ key, sighting ∈ entries.under key := by
  simp only [isListed, List.any_eq_true, List.contains_iff_mem, Prod.exists,
    Std.ExtTreeMap.mem_toList_iff_getElem?_eq_some]
  refine exists_congr fun key => ?_
  rw [EntryMap.under]
  cases entries[key]? with
  | none => simp
  | some listed => simp

namespace Policy

variable {policy : Policy} {platform : Platform} {saved : Option ProfileIndex}
  {batch : List Sighting}

/-- The kept sightings are those that stand under some key. -/
lemma mem_kept {sighting : Sighting} :
    sighting ∈ policy.kept saved batch ↔
      ∃ key, sighting ∈ (policy.entries saved batch).under key := by
  rw [kept, List.mem_filter, EntryMap.isListed_iff]
  refine and_iff_right_of_imp ?_
  rintro ⟨key, hkey⟩
  exact (mem_under.1 hkey).2.1

/-- Nothing comes into range by dropping sightings. -/
lemma inRange_of_kept {name : String} {p : Protocol}
    (range : Sighting.inRange (policy.kept saved batch) name p = true) :
    Sighting.inRange batch name p = true := by
  obtain ⟨sighting, hkept, same, hp⟩ := Sighting.inRange_iff.1 range
  exact Sighting.inRange_iff.2 ⟨sighting, (List.mem_filter.1 hkept).1, same, hp⟩

/-- What a listed sighting offers stays in range. -/
lemma inRange_kept {sighting : Sighting} {key : EntryKey} {p : Protocol}
    (hkey : sighting ∈ (policy.entries saved batch).under key) (hp : p ∈ sighting.protocols) :
    Sighting.inRange (policy.kept saved batch) key.name p = true := by
  obtain ⟨-, -, same, -⟩ := mem_under.1 hkey
  exact Sighting.inRange_iff.2 ⟨sighting, mem_kept.2 ⟨key, hkey⟩, same, hp⟩

/-- With only the kept sightings in range, a name still goes by each protocol that it has a key
for. -/
lemma favourite_kept {sighting : Sighting} {key : EntryKey}
    (hkey : sighting ∈ ((⟨.single, platform⟩ : Policy).entries saved batch).under key) :
    (Presence.inBatch ((⟨.single, platform⟩ : Policy).kept saved batch) saved key.name).favourite
      key.protocol.family = key.protocol := by
  have range {p : Protocol} (hp : p ∈ platform.usable sighting.protocols) :=
    inRange_kept hkey (Platform.mem_usable.1 hp).1
  obtain ⟨hname, -, -, lists⟩ := mem_under_single.1 hkey
  obtain ⟨name, p⟩ := key
  cases p with
  | psk =>
    -- if the name went by SAE now, it would have done so before
    refine if_neg fun favours => ne_true_of_eq_false lists.2 ?_
    obtain ⟨hpsk, hsae, hrange⟩ := Presence.favoursSae_iff.1 favours
    refine Presence.favoursSae_iff.2 ⟨hpsk, hsae.imp_right fun gone => ?_, inRange_of_kept hrange⟩
    -- beacons with PSK are listed under PSK here, so none of them has been dropped
    refine Bool.eq_false_iff.2 fun rival => ne_true_of_eq_false gone ?_
    obtain ⟨sibling, hsibling, hoffers⟩ := exists_under_psk hname lists.2 rival
    exact inRange_kept hsibling hoffers
  | sae =>
    obtain ⟨hpsk, hsae, -⟩ := Presence.favoursSae_iff.1 lists.2
    refine if_pos (Presence.favoursSae_iff.2 ⟨hpsk, hsae.imp_right fun none => ?_, range lists.1⟩)
    exact Bool.eq_false_iff.2 fun rival => ne_true_of_eq_false none (inRange_of_kept rival)
  | owe =>
    obtain ⟨hsaved, -⟩ := Presence.favoursOwe_iff.1 lists.2
    exact if_pos (Presence.favoursOwe_iff.2 ⟨hsaved, range lists.1.1⟩)
  | unsecured =>
    refine if_neg fun favours => ne_true_of_eq_false lists.2 ?_
    obtain ⟨hsaved, hrange⟩ := Presence.favoursOwe_iff.1 favours
    exact Presence.favoursOwe_iff.2 ⟨hsaved, inRange_of_kept hrange⟩
  | wep => rfl
  | eap => rfl
  | suiteB => rfl

/-- A kept sighting is listed under the same protocols without the dropped ones. -/
lemma chosen_kept {sighting : Sighting} (hkept : sighting ∈ policy.kept saved batch) :
    policy.chosen saved (policy.kept saved batch) sighting =
      policy.chosen saved batch sighting := by
  obtain ⟨mode, platform⟩ := policy
  cases mode with
  | multiple => rfl
  | single =>
    obtain ⟨key, hkey⟩ := mem_kept.1 hkept
    obtain ⟨-, hmem, same, lists⟩ := mem_under_single.1 hkey
    obtain ⟨hadmits, goes⟩ := Presence.lists_iff.1 lists
    refine chosen_congr hkept hmem fun p admits => ?_
    rw [(sighting.oneFamily_usable platform).admits_family admits hadmits, same, goes]
    exact favourite_kept hkey

/-- What belongs under a key is found among the kept sightings. -/
lemma listing_kept (key : EntryKey) :
    policy.listing saved (policy.kept saved batch) key = policy.listing saved batch key := by
  rw [listing, listing]
  split
  · rfl
  · next hname =>
    have judged : ∀ sighting ∈ policy.kept saved batch,
        (sighting.name = key.name &&
          (policy.chosen saved (policy.kept saved batch) sighting).contains key.protocol) =
        (sighting.name = key.name &&
          (policy.chosen saved batch sighting).contains key.protocol) := by
      intro sighting hkept
      rw [chosen_kept hkept]
    rw [List.filter_congr judged, kept, List.filter_filter]
    refine List.filter_congr fun sighting hmem => ?_
    -- what is listed under this key is kept
    rw [Bool.eq_iff_iff, Bool.and_eq_true, and_iff_left_iff_imp, Bool.and_eq_true,
      decide_eq_true_eq]
    rintro ⟨same, hchosen⟩
    rw [String.isEmpty_iff] at hname
    exact EntryMap.isListed_iff.2 ⟨key, mem_under.2 ⟨hname, hmem, same, hchosen⟩⟩

/-- Where two batches have the same observations in the same order, so have their maps. -/
lemma observations_entries_congr {other : List Sighting}
    (same : batch.map (·.observation) = other.map (·.observation)) :
    (policy.entries saved batch).observations = (policy.entries saved other).observations := by
  apply Std.ExtTreeMap.ext_getElem?
  intro key
  have named : (Sighting.named batch key.name).map (·.observation) =
      (Sighting.named other key.name).map (·.observation) := by
    rw [Sighting.map_observation_named, Sighting.map_observation_named, same]
  exact observations_eq_of_named (Presence.inBatch_eq_of_named named fun _ _ => rfl) named

/-- Attributing only what a map lists gives the same map, with the same sightings under the same
keys, in both modes. Numbered as a batch of its own, what was kept gives the same observations under
the same keys. -/
theorem entries_kept (policy : Policy) (saved : Option ProfileIndex) (batch : List Sighting) :
    policy.entries saved (policy.kept saved batch) = policy.entries saved batch ∧
      (policy.entries saved
        (Sighting.ofScan ((policy.kept saved batch).map (·.observation)))).observations =
          (policy.entries saved batch).observations := by
  have same : policy.entries saved (policy.kept saved batch) = policy.entries saved batch :=
    entries_eq_of_listing listing_kept
  refine ⟨same, ?_⟩
  rw [observations_entries_congr (Sighting.ofScan_observation _), same]

end Policy

end WifiRoster
