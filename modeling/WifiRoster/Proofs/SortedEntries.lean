import WifiRoster.Entry
import WifiRoster.Proofs.KeyText
import WifiRoster.Proofs.Pointwise
import WifiRoster.Proofs.Strongest

/-!
# Entries in order

The entries of a map are made from its keys and sightings in whatever order these come, and then
sorted by the text forms of the keys. As no two keys have the same text form, there is only one way
to sort them (`EntryKey.sorted_eq`), and the entries are those of the ordered keys, one by one
(`ofListing_eq_map`).
-/

namespace WifiRoster

/-- Keys in the order of their text forms. -/
def EntryKey.sorted (keys : List EntryKey) : List EntryKey :=
  keys.mergeSort fun key other => decide (key.text ≤ other.text)

/-- What a person is shown of a key of the map. -/
def Entry.ofKey (entries : EntryMap) (saved : Option ProfileIndex) (key : EntryKey) : Entry :=
  .ofSightings key (entries.under key) (saved.bind (·[key]?))

/-- Sorted keys ascend by their texts. -/
lemma EntryKey.pairwise_sorted (keys : List EntryKey) :
    (sorted keys).Pairwise (·.text ≤ ·.text) := by
  have ordered : (sorted keys).Pairwise fun key other =>
      decide (key.text ≤ other.text) = true := by
    refine List.pairwise_mergeSort (fun a b c hab hbc => ?_) (fun a b => ?_) keys
    · rw [decide_eq_true_eq] at hab hbc ⊢
      exact String.le_trans hab hbc
    · rw [Bool.or_eq_true, decide_eq_true_eq, decide_eq_true_eq]
      exact String.le_total _ _
  exact ordered.imp of_decide_eq_true

/-- Sorting keeps the keys. -/
lemma EntryKey.sorted_perm (keys : List EntryKey) : (sorted keys).Perm keys :=
  List.mergeSort_perm _ _

/-- There is only one order of the same keys in which their text forms are sorted. -/
lemma EntryKey.sorted_eq {keys ordered : List EntryKey} (same : keys.Perm ordered)
    (pairwise : ordered.Pairwise (·.text ≤ ·.text)) : sorted keys = ordered := by
  have rearranged : (sorted keys).Perm ordered := (sorted_perm keys).trans same
  refine rearranged.eq_of_pairwise (fun key other _ _ hle hge => ?_) (pairwise_sorted _) pairwise
  exact text_injective (String.le_antisymm hle hge)

/-- The same keys are sorted in one way only. -/
lemma EntryKey.sorted_of_perm {keys others : List EntryKey} (same : keys.Perm others) :
    sorted keys = sorted others :=
  sorted_eq (same.trans (sorted_perm others).symm) (pairwise_sorted others)

/-- Different keys are sorted strictly, since their text forms are different too. -/
lemma EntryKey.pairwise_lt_sorted {keys : List EntryKey} (distinct : keys.Nodup) :
    (sorted keys).Pairwise (·.text < ·.text) := by
  have differ : (sorted keys).Nodup := (sorted_perm keys).nodup_iff.2 distinct
  refine ((pairwise_sorted keys).and differ).imp fun both => ?_
  exact Std.lt_of_le_of_ne both.1 fun same => both.2 (text_injective same)

/-- The entries of a map are those of its keys in order, however the map is gone through. -/
lemma Entry.ofListing_eq_map {entries : EntryMap} {saved : Option ProfileIndex}
    {listing : List (EntryKey × List Sighting)} (order : listing.Perm entries.toList) :
    Entry.ofListing listing saved =
      (EntryKey.sorted entries.keys).map (Entry.ofKey entries saved) := by
  have made : (listing.map fun entry =>
      Entry.ofSightings entry.1 entry.2 (saved.bind (·[entry.1]?))) =
        (listing.map (·.1)).map (Entry.ofKey entries saved) := by
    rw [List.map_map]
    refine List.map_congr_left fun entry hentry => ?_
    rw [Function.comp_apply, Entry.ofKey, EntryMap.under_of_mem_toList (order.mem_iff.1 hentry)]
  have keys : (listing.map (·.1)).Perm entries.keys := by
    rw [← Std.ExtTreeMap.map_fst_toList_eq_keys]
    exact order.map _
  show (listing.map fun entry =>
    Entry.ofSightings entry.1 entry.2 (saved.bind (·[entry.1]?))).mergeSort precedes = _
  rw [made, ← EntryKey.sorted_of_perm keys, EntryKey.sorted]
  symm
  apply List.map_mergeSort
  intro key _ other _
  rfl

/-- The entries of a listing are those of the keys of the map. -/
lemma Entry.mem_ofListing {entries : EntryMap} {saved : Option ProfileIndex}
    {listing : List (EntryKey × List Sighting)} (order : listing.Perm entries.toList)
    {entry : Entry} :
    entry ∈ Entry.ofListing listing saved ↔
      ∃ key ∈ entries, Entry.ofKey entries saved key = entry := by
  rw [Entry.ofListing_eq_map order, List.mem_map]
  simp only [(EntryKey.sorted_perm _).mem_iff, Std.ExtTreeMap.mem_keys]

/-- The best sighting of an entry has the name of its key. -/
lemma Policy.name_of_strongest? {policy : Policy} {saved : Option ProfileIndex}
    {batch : List Sighting} {key : EntryKey} {best : Sighting}
    (found : Sighting.strongest? ((policy.entries saved batch).under key) = some best) :
    best.name = key.name := by
  obtain ⟨before, after, listed, -, -⟩ := Sighting.strongest?_spec found
  have hmem : best ∈ (policy.entries saved batch).under key := by simp [listed]
  exact (Policy.mem_under.1 hmem).2.2.1

end WifiRoster
