import Mathlib.Algebra.GroupWithZero.Nat
import WifiRoster.Proofs.ReportText
import WifiRoster.Proofs.SortedEntries
import WifiRoster.Proofs.Strongest

/-!
# The lines of a report

Each entry puts one newline behind its line. Names and descriptors come from the air and are written
as they are, so a line can hold further newlines of its own: there are never fewer newlines than
keys (`one_line_each_iff`), and there are as many exactly when no name of a key has one in it and,
if details are asked for, no descriptor of a best sighting has. A network called by two lines takes
two lines of the report (`two_lines_of_one_key`).
-/

namespace WifiRoster

/-- The newlines of a report: one for each entry and those in the rows. -/
lemma count_report (labels : Labels) (verbose : Bool) (entries : List Entry) :
    (report labels verbose entries).toList.count '\n' =
      entries.length + (entries.map fun entry =>
        (entry.row labels verbose).toList.count '\n').sum := by
  induction entries with
  | nil => rfl
  | cons entry rest ih =>
    rw [report_eq_join] at ih ⊢
    rw [List.map_cons, List.map_cons, String.join_cons, String.toList_append, String.toList_append,
      String.toList_singleton, List.count_append, List.count_append, ih, List.count_singleton_self,
      List.length_cons, List.map_cons, List.sum_cons]
    omega

/-- A report has as many newlines as entries where no line has one of its own. -/
lemma count_report_eq_iff {labels : Labels} (words : labels.Lacks '\n') {verbose : Bool}
    {entries : List Entry} :
    (report labels verbose entries).toList.count '\n' = entries.length ↔
      ∀ entry ∈ entries, '\n' ∉ entry.key.name.toList ∧
        (verbose = true → ∀ best ∈ entry.best, best.Lacks '\n') := by
  rw [count_report, Nat.add_eq_left, List.sum_eq_zero_iff_forall_eq_nat, List.forall_mem_map]
  refine forall₂_congr fun entry _ => ?_
  rw [List.count_eq_zero, Entry.row, Text.not_mem_intercalate (by decide),
    Entry.not_mem_fields_iff (by decide) words]

section Keys

variable {policy : Policy} {saved : Option ProfileIndex} {batch : List Sighting}

/-- There are as many entries as keys. -/
lemma length_ofMap (entries : EntryMap) (saved : Option ProfileIndex) :
    (Entry.ofMap entries saved).length = entries.size := by
  rw [Entry.ofMap, Entry.ofListing_eq_map (.refl _), List.length_map,
    (EntryKey.sorted_perm _).length_eq, Std.ExtTreeMap.length_keys]

/-- The entries of a map are those of its keys. -/
lemma mem_ofMap {entries : EntryMap} {entry : Entry} :
    entry ∈ Entry.ofMap entries saved ↔ ∃ key ∈ entries, Entry.ofKey entries saved key = entry :=
  Entry.mem_ofListing (.refl _)

/-- One line for each entry. A report on a scan never has fewer newlines than the map has keys, and
it has as many exactly when no key has a newline in its name and, if details are asked for, no best
sighting has one in its descriptor. -/
theorem Policy.one_line_each_iff (policy : Policy) (saved : Option ProfileIndex)
    (scan : List Observation) (verbose : Bool) :
    let entries := policy.entries saved (Sighting.ofScan scan)
    let newlines := (report .english verbose (Entry.ofMap entries saved)).toList.count '\n'
    entries.size ≤ newlines ∧
      (newlines = entries.size ↔
        ∀ key ∈ entries, '\n' ∉ key.name.toList ∧
          (verbose = true → ∀ best ∈ Sighting.strongest? (entries.under key),
            ∀ descriptor ∈ best.observation.descriptor, '\n' ∉ descriptor.toList)) := by
  intro entries newlines
  have words : Labels.english.Lacks '\n' := Labels.english_lacks (by decide)
  constructor
  · rw [← length_ofMap entries saved]
    simp only [newlines, count_report]
    exact Nat.le_add_right _ _
  · rw [← length_ofMap entries saved, count_report_eq_iff words]
    constructor
    · intro plain key hkey
      obtain ⟨name, details⟩ := plain _ (mem_ofMap.2 ⟨key, hkey, rfl⟩)
      exact ⟨name, fun asked best hbest => (details asked best hbest).descriptor⟩
    · rintro plain entry hentry
      obtain ⟨key, hkey, rfl⟩ := mem_ofMap.1 hentry
      obtain ⟨name, details⟩ := plain key hkey
      refine ⟨name, fun asked best hbest => ⟨?_, details asked best hbest⟩⟩
      rw [Policy.name_of_strongest? hbest]
      exact name

/-- A name with a newline in it takes two lines, though it is the name of one key. -/
theorem Policy.two_lines_of_one_key :
    let scan : List Observation := [⟨"Cafe\nBar", none, -50⟩]
    let entries := (⟨.single, .full⟩ : Policy).entries none (Sighting.ofScan scan)
    entries.size = 1 ∧
      (report .english false (Entry.ofMap entries none)).toList.count '\n' = 2 := by
  decide +kernel

end Keys

end WifiRoster
