import WifiRoster.Attribution.Verdict

/-!
# Entry maps

Judged sightings are listed under the keys of their chosen protocols, in the order in which they
are judged. The main statement, `getElem?_ofVerdicts`, says what stands under a key without going
through the verdicts one by one.
-/

namespace WifiRoster

/-- The sightings listed under each key. -/
abbrev EntryMap := Std.ExtTreeMap EntryKey (List Sighting)

/-- The judged sightings that are listed under a key, in order. -/
def Verdict.listed (verdicts : List Verdict) (key : EntryKey) : List Sighting :=
  (verdicts.filter (·.isListedUnder key)).map (·.sighting)

namespace EntryMap

/-- The map with one more sighting behind the others of a key. -/
def append (entries : EntryMap) (key : EntryKey) (sighting : Sighting) : EntryMap :=
  entries.alter key fun listed => some (listed.getD [] ++ [sighting])

/-- The map with a judged sighting under the keys of its chosen protocols. -/
def record (entries : EntryMap) (verdict : Verdict) : EntryMap :=
  verdict.outcome.protocols.toList.foldl
    (fun entries p => entries.append ⟨verdict.sighting.name, p⟩ verdict.sighting) entries

/-- The map of a list of judged sightings. -/
def ofVerdicts (verdicts : List Verdict) : EntryMap := verdicts.foldl record ∅

/-- A sighting changes what stands under its key only. -/
theorem getElem?_append (entries : EntryMap) (key : EntryKey) (sighting : Sighting)
    (other : EntryKey) :
    (entries.append key sighting)[other]? =
      if key = other then some (entries[other]?.getD [] ++ [sighting]) else entries[other]? := by
  unfold append
  rw [Std.ExtTreeMap.getElem?_alter]
  by_cases h : key = other <;> simp [h]

/-- A sighting that is put under several protocols of a name changes each of those keys once. -/
theorem getElem?_foldl_append (entries : EntryMap) (name : String) (sighting : Sighting)
    (ps : List Protocol) (distinct : ps.Nodup) (key : EntryKey) :
    (ps.foldl (fun entries p => entries.append ⟨name, p⟩ sighting) entries)[key]? =
      if name = key.name ∧ key.protocol ∈ ps then some (entries[key]?.getD [] ++ [sighting])
      else entries[key]? := by
  induction ps generalizing entries with
  | nil => simp
  | cons p rest ih =>
    obtain ⟨habsent, hrest⟩ := List.nodup_cons.1 distinct
    rw [List.foldl_cons, ih _ hrest, getElem?_append]
    obtain ⟨n, q⟩ := key
    by_cases hn : name = n
    · by_cases hq : p = q
      · subst hn hq
        simp [habsent]
      · simp [hn, hq, Ne.symm hq]
    · simp [hn]

/-- A judged sighting is put behind what stands under each key that it is listed under. -/
theorem getElem?_record (entries : EntryMap) (verdict : Verdict) (key : EntryKey) :
    (entries.record verdict)[key]? =
      if verdict.isListedUnder key then some (entries[key]?.getD [] ++ [verdict.sighting])
      else entries[key]? := by
  unfold record
  rw [getElem?_foldl_append _ _ _ _ (ProtocolSet.nodup_toList _)]
  simp [Verdict.isListedUnder, ProtocolSet.mem_toList, ProtocolSet.mem_iff]

/-- What stands under a key are the sightings that are listed under it, if there are any. -/
theorem getElem?_ofVerdicts (verdicts : List Verdict) (key : EntryKey) :
    (ofVerdicts verdicts)[key]? =
      if Verdict.listed verdicts key = [] then none else some (Verdict.listed verdicts key) := by
  have general (entries : EntryMap) :
      (verdicts.foldl record entries)[key]? =
        if Verdict.listed verdicts key = [] then entries[key]?
        else some (entries[key]?.getD [] ++ Verdict.listed verdicts key) := by
    induction verdicts generalizing entries with
    | nil => simp [Verdict.listed]
    | cons verdict rest ih =>
      rw [List.foldl_cons, ih, getElem?_record]
      cases hlisted : verdict.isListedUnder key with
      | false => simp [Verdict.listed, hlisted]
      | true => by_cases hrest : Verdict.listed rest key = [] <;> simp_all [Verdict.listed]
  unfold ofVerdicts
  rw [general]
  simp

end EntryMap

end WifiRoster
