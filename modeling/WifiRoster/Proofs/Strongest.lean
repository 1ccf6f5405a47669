import Mathlib.Data.List.Induction
import Mathlib.Order.Bounds.Basic
import WifiRoster.Observation

/-!
# The strongest sighting

`Sighting.strongest?` goes through a list and keeps the better of two sightings, the earlier one on
a tie. `strongest?_spec` says where the sighting stands that it ends with: all before it are weaker,
and none after it is stronger. The level of that sighting is then the greatest of all levels
(`map_level_strongest?`), which does not depend on the order of the list.

The main statement, `first_of_strongest`, says the same by places: the sighting stands at the first
place whose level no other exceeds, and a list that is gone through afterwards has to surpass that
level to change it.
-/

namespace WifiRoster.Sighting

/-- One more sighting at the end is compared with the strongest so far. -/
lemma strongest?_concat (sightings : List Sighting) (last : Sighting) :
    strongest? (sightings ++ [last]) = better (strongest? sightings) last := by
  rw [strongest?, List.foldl_append]
  rfl

/-- Only an empty list has no strongest sighting. -/
lemma strongest?_eq_none_iff {sightings : List Sighting} :
    strongest? sightings = none ↔ sightings = [] := by
  induction sightings using List.reverseRecOn with
  | nil => exact iff_of_true rfl rfl
  | append_singleton earlier last =>
    rw [strongest?_concat]
    refine iff_of_false ?_ (List.append_ne_nil_of_right_ne_nil _ (List.cons_ne_nil _ _))
    cases strongest? earlier with
    | none => nofun
    | some best =>
      simp only [better]
      split <;> nofun

/-- The sighting that is kept is stronger than all before it and as strong as any after it. -/
lemma strongest?_spec {sightings : List Sighting} {best : Sighting}
    (found : strongest? sightings = some best) :
    ∃ before after, sightings = before ++ best :: after ∧
      (∀ sighting ∈ before, sighting.level < best.level) ∧
      ∀ sighting ∈ after, sighting.level ≤ best.level := by
  induction sightings using List.reverseRecOn generalizing best with
  | nil => cases found
  | append_singleton earlier last ih =>
    rw [strongest?_concat] at found
    cases hearlier : strongest? earlier with
    | none =>
      obtain rfl := strongest?_eq_none_iff.1 hearlier
      cases found
      exact ⟨[], [], rfl, nofun, nofun⟩
    | some kept =>
      obtain ⟨before, after, rfl, hbefore, hafter⟩ := ih hearlier
      rw [hearlier, better] at found
      split at found
      · next weaker =>
        cases found
        refine ⟨before, after ++ [last], by simp, hbefore, fun sighting hmem => ?_⟩
        rcases List.mem_append.1 hmem with hold | hnew
        · exact hafter sighting hold
        · obtain rfl := List.mem_singleton.1 hnew
          exact weaker
      · next stronger =>
        cases found
        rw [Int32.not_le] at stronger
        refine ⟨before ++ kept :: after, [], rfl, fun sighting hmem => ?_, nofun⟩
        rcases List.mem_append.1 hmem with hold | hold
        · exact Int32.lt_trans (hbefore sighting hold) stronger
        · cases hold with
          | head => exact stronger
          | tail _ hold => exact Int32.lt_of_le_of_lt (hafter sighting hold) stronger

/-- No level exceeds that of a sighting with weaker ones before it and no stronger ones after it. -/
lemma level_le_of_split {before after : List Sighting} {best : Sighting}
    (hbefore : ∀ sighting ∈ before, sighting.level < best.level)
    (hafter : ∀ sighting ∈ after, sighting.level ≤ best.level) :
    ∀ sighting ∈ before ++ best :: after, sighting.level ≤ best.level := by
  intro sighting hmem
  rcases List.mem_append.1 hmem with hold | hnew
  · exact Int32.le_of_lt (hbefore sighting hold)
  · cases hnew with
    | head => exact Int32.le_refl _
    | tail _ hnew => exact hafter sighting hnew

/-- No level exceeds that of the strongest sighting. -/
lemma level_le_of_strongest? {sightings : List Sighting} {best : Sighting}
    (found : strongest? sightings = some best) :
    ∀ sighting ∈ sightings, sighting.level ≤ best.level := by
  obtain ⟨before, after, rfl, hbefore, hafter⟩ := strongest?_spec found
  exact level_le_of_split hbefore hafter

/-- The strongest sighting is one of those in the list. -/
lemma mem_of_strongest? {sightings : List Sighting} {best : Sighting}
    (found : strongest? sightings = some best) : best ∈ sightings := by
  obtain ⟨before, after, rfl, -, -⟩ := strongest?_spec found
  exact List.mem_append_right _ (.head _)

/-- The level of the strongest sighting is the greatest level. -/
lemma map_level_strongest? {sightings : List Sighting} {level : Int32} :
    (strongest? sightings).map (·.level) = some level ↔
      level ∈ sightings.map (·.level) ∧ ∀ other ∈ sightings.map (·.level), other ≤ level := by
  have greatest {best : Sighting} (found : strongest? sightings = some best) :
      best.level ∈ sightings.map (·.level) ∧
        ∀ other ∈ sightings.map (·.level), other ≤ best.level := by
    refine ⟨List.mem_map_of_mem (mem_of_strongest? found), fun other hother => ?_⟩
    obtain ⟨sighting, hmem, rfl⟩ := List.mem_map.1 hother
    exact level_le_of_strongest? found sighting hmem
  constructor
  · intro h
    obtain ⟨best, found, rfl⟩ := Option.map_eq_some_iff.1 h
    exact greatest found
  · rintro ⟨hmem, hmax⟩
    cases found : strongest? sightings with
    | none =>
      rw [strongest?_eq_none_iff.1 found] at hmem
      cases hmem
    | some best =>
      obtain ⟨hbest, hmost⟩ := greatest found
      exact congrArg some (Int32.le_antisymm (hmax _ hbest) (hmost _ hmem))

/-- The greatest level does not depend on the order of the levels. -/
lemma map_level_strongest?_of_perm {sightings others : List Sighting}
    (same : (sightings.map (·.level)).Perm (others.map (·.level))) :
    (strongest? sightings).map (·.level) = (strongest? others).map (·.level) := by
  apply Option.ext
  intro level
  rw [map_level_strongest?, map_level_strongest?]
  simp only [same.mem_iff]

section FirstPeak

variable {sightings earlier later : List Sighting}

/-- The level at a place is at least as high as every level of the list. -/
def Peak (levels : List Int32) (place : Nat) : Prop :=
  ∃ level, levels[place]? = some level ∧ ∀ other ∈ levels, other ≤ level

/-- Some later sighting is stronger than all earlier ones. -/
def Surpasses (later earlier : List Sighting) : Prop :=
  ∃ sighting ∈ later, ∀ other ∈ earlier, other.level < sighting.level

instance (later earlier : List Sighting) : Decidable (Surpasses later earlier) :=
  inferInstanceAs (Decidable (∃ sighting ∈ later, ∀ other ∈ earlier, other.level < sighting.level))

/-- A sighting that all before it are weaker than and none behind it is stronger than stands at the
first peak. -/
lemma isLeast_peak {before after : List Sighting} {best : Sighting}
    (hbefore : ∀ sighting ∈ before, sighting.level < best.level)
    (hafter : ∀ sighting ∈ after, sighting.level ≤ best.level) :
    IsLeast {place | Peak ((before ++ best :: after).map (·.level)) place} before.length := by
  refine ⟨⟨best.level, by simp, fun other hother => ?_⟩, ?_⟩
  · obtain ⟨sighting, hmem, rfl⟩ := List.mem_map.1 hother
    exact level_le_of_split hbefore hafter sighting hmem
  · rintro place ⟨level, hlevel, peak⟩
    refine Nat.le_of_not_lt fun front => ?_
    -- a peak in front of the sighting would have to be as strong
    rw [List.getElem?_map, List.getElem?_append_left front] at hlevel
    obtain ⟨sighting, hsighting, rfl⟩ := Option.map_eq_some_iff.1 hlevel
    have weaker := hbefore sighting (List.mem_of_getElem? hsighting)
    have stronger := peak best.level (List.mem_map_of_mem (by simp))
    exact Int32.lt_irrefl (Int32.lt_of_lt_of_le weaker stronger)

/-- The strongest sighting is the one that stands at the first peak. -/
lemma strongest?_eq_some_iff {best : Sighting} :
    strongest? sightings = some best ↔
      ∃ place, IsLeast {place | Peak (sightings.map (·.level)) place} place ∧
        sightings[place]? = some best := by
  constructor
  · intro found
    obtain ⟨before, after, rfl, hbefore, hafter⟩ := strongest?_spec found
    exact ⟨before.length, isLeast_peak hbefore hafter, by simp⟩
  · rintro ⟨place, least, stands⟩
    cases found : strongest? sightings with
    | none =>
      rw [strongest?_eq_none_iff.1 found] at stands
      cases stands
    | some kept =>
      obtain ⟨before, after, rfl, hbefore, hafter⟩ := strongest?_spec found
      rw [least.unique (isLeast_peak hbefore hafter)] at stands
      simpa using stands

/-- A sighting with weaker ones before it and no stronger ones after it is the strongest. -/
lemma strongest?_of_split {before after : List Sighting} {best : Sighting}
    (hbefore : ∀ sighting ∈ before, sighting.level < best.level)
    (hafter : ∀ sighting ∈ after, sighting.level ≤ best.level) :
    strongest? (before ++ best :: after) = some best :=
  strongest?_eq_some_iff.2 ⟨before.length, isLeast_peak hbefore hafter, by simp⟩

/-- The levels of the sightings of a scan are those of its observations. -/
lemma map_level_ofScan (scan : List Observation) :
    (ofScan scan).map (·.level) = scan.map (·.level) := by
  conv_rhs => rw [← ofScan_observation scan, List.map_map]
  rfl

/-- The position of the strongest sighting of a scan is the first peak of the levels. -/
lemma strongest?_ofScan_iff {scan : List Observation} {best : Sighting} :
    strongest? (ofScan scan) = some best ↔
      IsLeast {place | Peak (scan.map (·.level)) place} best.position ∧
        scan[best.position]? = some best.observation := by
  rw [strongest?_eq_some_iff, map_level_ofScan]
  constructor
  · rintro ⟨place, least, stands⟩
    rw [getElem?_ofScan] at stands
    obtain ⟨observation, hscan, rfl⟩ := Option.map_eq_some_iff.1 stands
    exact ⟨least, hscan⟩
  · rintro ⟨least, hscan⟩
    refine ⟨best.position, least, ?_⟩
    rw [getElem?_ofScan, hscan]
    rfl

/-- A list that surpasses what was before it decides alone. -/
lemma strongest?_append_of_surpasses (surpasses : Surpasses later earlier) :
    strongest? (earlier ++ later) = strongest? later := by
  obtain ⟨sighting, hmem, stronger⟩ := surpasses
  cases found : strongest? later with
  | none =>
    rw [strongest?_eq_none_iff.1 found] at hmem
    cases hmem
  | some best =>
    have highest := level_le_of_strongest? found sighting hmem
    obtain ⟨before, after, rfl, hbefore, hafter⟩ := strongest?_spec found
    rw [← List.append_assoc]
    refine strongest?_of_split (fun other hother => ?_) hafter
    rcases List.mem_append.1 hother with hold | hnew
    · exact Int32.lt_of_lt_of_le (stronger other hold) highest
    · exact hbefore other hnew

/-- A list that does not surpass what was before it changes nothing. -/
lemma strongest?_append_of_not_surpasses (nonempty : earlier ≠ [])
    (weaker : ¬ Surpasses later earlier) :
    strongest? (earlier ++ later) = strongest? earlier := by
  obtain ⟨best, found⟩ := Option.ne_none_iff_exists'.1 (mt strongest?_eq_none_iff.1 nonempty)
  have highest := level_le_of_strongest? found
  rw [found]
  obtain ⟨before, after, rfl, hbefore, hafter⟩ := strongest?_spec found
  rw [List.append_assoc, List.cons_append]
  refine strongest?_of_split hbefore fun other hother => ?_
  rcases List.mem_append.1 hother with hold | hnew
  · exact hafter other hold
  · refine Int32.not_lt.1 fun stronger => weaker ⟨other, hnew, fun sighting hmem => ?_⟩
    exact Int32.lt_of_le_of_lt (highest sighting hmem) stronger

/-- The strongest sighting is the first one whose level no other exceeds. There is none in an empty
list only, and in a scan its position tells where it stands. Of two lists one after the other, the
earlier one has it, unless that is empty or surpassed by the later one. -/
theorem first_of_strongest :
    (∀ sightings, strongest? sightings = none ↔ sightings = []) ∧
    (∀ sightings best, strongest? sightings = some best ↔
      ∃ place, IsLeast {place | Peak (sightings.map (·.level)) place} place ∧
        sightings[place]? = some best) ∧
    (∀ (scan : List Observation) best, strongest? (ofScan scan) = some best ↔
      IsLeast {place | Peak (scan.map (·.level)) place} best.position ∧
        scan[best.position]? = some best.observation) ∧
    ∀ earlier later, strongest? (earlier ++ later) =
      if earlier = [] ∨ Surpasses later earlier then strongest? later else strongest? earlier := by
  refine ⟨fun _ => strongest?_eq_none_iff, fun _ _ => strongest?_eq_some_iff,
    fun _ _ => strongest?_ofScan_iff, fun earlier later => ?_⟩
  split
  · next overtaken =>
    rcases overtaken with rfl | surpasses
    · rw [List.nil_append]
    · exact strongest?_append_of_surpasses surpasses
  · next kept =>
    obtain ⟨nonempty, weaker⟩ := not_or.1 kept
    exact strongest?_append_of_not_surpasses nonempty weaker

end FirstPeak

end WifiRoster.Sighting
