import WifiRoster.Proofs.ByteOrder
import WifiRoster.Proofs.SortedEntries

/-!
# What is shown of a map

The entries of a map are its complete view. Each key has one entry, which tells the sightings listed
under the key by their number and the first of the strongest (`Entry.SumsUp`), and the entries stand
in the byte order of the text forms of their keys, whatever the order in which the map was gone
through (`Entry.once_each_in_byte_order`). It is the text form that is compared, with the separator
and the tag in it: a network `A B` stands before a network `A`, as a blank comes before a comma.

In the map of a batch something stands under each key, so each entry has a best sighting there, and
that bears the name of the key (`Policy.seen_ofKey`).
-/

namespace WifiRoster

/-- The sighting is the first of the strongest in the list. -/
def Sighting.FirstStrongest (best : Sighting) (listed : List Sighting) : Prop :=
  ∃ before after, listed = before ++ best :: after ∧
    (∀ sighting ∈ before, sighting.level < best.level) ∧
    ∀ sighting ∈ after, sighting.level ≤ best.level

/-- The entry tells the sightings listed under its key, and what is saved under it. -/
structure Entry.SumsUp (entry : Entry) (listed : List Sighting) (saved : Option ProfileIndex) :
    Prop where
  count : entry.count = listed.length
  best : ∀ best ∈ entry.best, best.FirstStrongest listed
  best_none : entry.best = none ↔ listed = []
  profile : entry.profile = saved.bind (·[entry.key]?)

/-- The entry tells of a sighting at least, and the best one bears the name of the key. -/
structure Entry.Seen (entry : Entry) : Prop where
  count : 1 ≤ entry.count
  best : ∃ best, entry.best = some best ∧ best.name = entry.key.name

section View

variable {entries : EntryMap} {saved : Option ProfileIndex}
  {listing : List (EntryKey × List Sighting)}

/-- The entry of a key sums up what is listed under it. -/
lemma Entry.sumsUp_ofKey (entries : EntryMap) (saved : Option ProfileIndex) (key : EntryKey) :
    (Entry.ofKey entries saved key).SumsUp (entries.under key) saved where
  count := rfl
  best _ found := Sighting.strongest?_spec found
  best_none := Sighting.strongest?_eq_none_iff
  profile := rfl

/-- The entries have the keys of the map, sorted. -/
lemma Entry.map_key_ofListing (order : listing.Perm entries.toList) :
    (Entry.ofListing listing saved).map (·.key) = EntryKey.sorted entries.keys := by
  rw [Entry.ofListing_eq_map order, List.map_map]
  exact List.map_id _

/-- In the map of a batch something stands under each key, and it bears the name of the key. -/
lemma Policy.seen_ofKey {policy : Policy} {known : Option ProfileIndex} {batch : List Sighting}
    {key : EntryKey} (hkey : key ∈ policy.entries known batch) :
    (Entry.ofKey (policy.entries known batch) saved key).Seen := by
  have listed := mem_entries_iff_ne_nil.1 hkey
  refine ⟨List.length_pos_iff.2 listed, ?_⟩
  obtain ⟨best, found⟩ := Option.ne_none_iff_exists'.1
    (mt Sighting.strongest?_eq_none_iff.1 listed)
  exact ⟨best, found, name_of_strongest? found⟩

/-- The entries of a map are its complete view, sorted. However the map is gone through, each of its
keys has one entry and there are no others; the entries stand in strictly increasing byte order of
the text forms of their keys, and are the same for every other way to go through the map; and each
entry tells the sightings listed under its key and the profile saved under it. If the map is that of
a batch, in whatever order the groups of names were judged, no entry is without a sighting of its
name. -/
theorem Entry.once_each_in_byte_order {entries : EntryMap} (saved : Option ProfileIndex)
    {listing : List (EntryKey × List Sighting)} (order : listing.Perm entries.toList) :
    let shown := Entry.ofListing listing saved
    (shown.map (·.key)).Perm entries.keys ∧
    shown.Pairwise (fun entry later => Text.bytes entry.key.text < Text.bytes later.key.text) ∧
    (∀ relisting, relisting.Perm entries.toList → Entry.ofListing relisting saved = shown) ∧
    (∀ entry ∈ shown, ∃ listed, entries[entry.key]? = some listed ∧ entry.SumsUp listed saved) ∧
    ∀ (policy : Policy) (known : Option ProfileIndex) (batch : List Sighting) groups,
      groups.Perm (Grouping.ofBatch batch).toList →
      entries = policy.entriesOfGroups known groups → ∀ entry ∈ shown, entry.Seen := by
  intro shown
  have keys : shown.map (·.key) = EntryKey.sorted entries.keys := map_key_ofListing order
  refine ⟨?_, ?_, ?_, ?_, ?_⟩
  · rw [keys]
    exact EntryKey.sorted_perm _
  · have increasing := EntryKey.pairwise_lt_sorted (Std.ExtTreeMap.nodup_keys (t := entries))
    rw [← keys, List.pairwise_map] at increasing
    exact increasing.imp Text.bytes_lt_bytes
  · intro relisting reorder
    rw [ofListing_eq_map reorder, ← ofListing_eq_map order]
  · intro entry hentry
    obtain ⟨key, hkey, rfl⟩ := (mem_ofListing order).1 hentry
    exact ⟨_, EntryMap.getElem?_of_mem hkey, sumsUp_ofKey entries saved key⟩
  · rintro policy known batch groups judged rfl entry hentry
    obtain ⟨key, hkey, rfl⟩ := (mem_ofListing order).1 hentry
    rw [Policy.entriesOfGroups_eq_entries judged] at hkey ⊢
    exact Policy.seen_ofKey hkey

/-- Two keys of one name and a longer name, gone through backwards: a blank comes before a comma,
and the tag of EAP before that of an open network. -/
theorem Entry.once_each_in_byte_order_spaced :
    let scan : List Observation :=
      [⟨"A", some "[ESS]", -50⟩, ⟨"A", some "[WPA2-EAP-CCMP]", -60⟩, ⟨"A B", some "[WEP]", -70⟩]
    let entries := (⟨.single, .full⟩ : Policy).entries none (Sighting.ofScan scan)
    let listing := entries.toList.reverse
    let shown := Entry.ofListing listing none
    listing.Perm entries.toList ∧
      shown.map (·.key) = [⟨"A B", .wep⟩, ⟨"A", .eap⟩, ⟨"A", .unsecured⟩] ∧
      shown.Pairwise (fun entry later => Text.bytes entry.key.text < Text.bytes later.key.text) ∧
      ∀ entry ∈ shown, entry.Seen := by
  intro scan entries listing shown
  have order : listing.Perm entries.toList := List.reverse_perm _
  obtain ⟨-, increasing, -, -, seen⟩ := Entry.once_each_in_byte_order none order
  refine ⟨order, ?_, increasing, ?_⟩
  · rw [map_key_ofListing order]
    exact EntryKey.sorted_eq (by decide +kernel) (by decide +kernel)
  · exact seen ⟨.single, .full⟩ none (Sighting.ofScan scan) _ (.refl _) rfl

end View

end WifiRoster
