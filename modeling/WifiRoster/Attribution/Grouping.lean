import WifiRoster.Observation

/-!
# Grouping by network name

The named sightings of a batch fall into groups of one name each, in which batch order is kept.
The main statement, `getElem?_ofBatch`, says what the group of a name is without going through the
batch: all sightings of that name, unless the name is empty or there are none.
-/

namespace WifiRoster

/-- The sightings of each network name, in batch order. -/
abbrev Grouping := Std.ExtTreeMap String (List Sighting)

/-- The sightings of a batch that bear a name, in order. -/
def Sighting.named (batch : List Sighting) (name : String) : List Sighting :=
  batch.filter fun sighting => sighting.name = name

namespace Grouping

/-- The grouping with one more sighting behind the others of its name. -/
def add (groups : Grouping) (sighting : Sighting) : Grouping :=
  groups.alter sighting.name fun members => some (members.getD [] ++ [sighting])

/-- The named sightings of a batch by their names. -/
def ofBatch (batch : List Sighting) : Grouping :=
  (batch.filter (!·.name.isEmpty)).foldl add ∅

/-- A sighting changes the group of its own name only. -/
theorem getElem?_add (groups : Grouping) (sighting : Sighting) (name : String) :
    (groups.add sighting)[name]? =
      if sighting.name = name then some (groups[name]?.getD [] ++ [sighting])
      else groups[name]? := by
  unfold add
  rw [Std.ExtTreeMap.getElem?_alter]
  by_cases h : sighting.name = name <;> simp [h]

/-- Sightings are put behind the group of their name. -/
theorem getElem?_foldl_add (batch : List Sighting) (groups : Grouping) (name : String) :
    (batch.foldl add groups)[name]? =
      if Sighting.named batch name = [] then groups[name]?
      else some (groups[name]?.getD [] ++ Sighting.named batch name) := by
  induction batch generalizing groups with
  | nil => simp [Sighting.named]
  | cons sighting rest ih =>
    rw [List.foldl_cons, ih, getElem?_add]
    by_cases h : sighting.name = name
    · by_cases hrest : Sighting.named rest name = [] <;> simp_all [Sighting.named]
    · simp_all [Sighting.named]

/-- The group of a name holds the sightings of that name, and is there if there are any. -/
theorem getElem?_ofBatch (batch : List Sighting) (name : String) :
    (ofBatch batch)[name]? =
      if name.isEmpty ∨ Sighting.named batch name = [] then none
      else some (Sighting.named batch name) := by
  have hnamed : Sighting.named (batch.filter (!·.name.isEmpty)) name =
      if name.isEmpty then [] else Sighting.named batch name := by
    unfold Sighting.named
    rw [List.filter_filter]
    split
    · next hempty =>
      apply List.filter_eq_nil_iff.2
      intro sighting _ hboth
      simp only [Bool.and_eq_true, decide_eq_true_eq, Bool.not_eq_true'] at hboth
      rw [hboth.1, hempty] at hboth
      exact absurd hboth.2 (by decide)
    · next hnonempty =>
      apply List.filter_congr
      intro sighting _
      by_cases h : sighting.name = name
      · simp [h, hnonempty]
      · simp [h]
  unfold ofBatch
  rw [getElem?_foldl_add, hnamed]
  by_cases hempty : name.isEmpty = true <;> simp [hempty]

end Grouping

end WifiRoster
