import Mathlib.Data.List.Basic
import Mathlib.Tactic.SplitIfs
import WifiRoster.Format.Profiles

/-!
# Which profiles an index holds

The records of a profile file do not name their protocols. The protocol of a record is the first of
a ranking that the record supports (`ProfileRecord.Resolves`), so it depends on which schemes are
listed and not on how (`ProfileRecord.resolves_congr`). Records that come to the same name and
protocol get in each other's way: going through them one by one, the index forgets what it had under
the key of the next (`ProfileIndex.getElem?_save`), and so the last record for a key is the one that
counts. `ProfileIndex.last_record_counts` is the main statement.
-/

namespace WifiRoster

/-- The protocols of profiles, the one that is preferred first. -/
def Protocol.ranking : List Protocol := [.sae, .psk, .suiteB, .eap, .owe, .wep, .unsecured]

namespace ProfileRecord

/-- Whether the profile that a record describes can be used with a protocol. -/
def Supports (record : ProfileRecord) : Protocol → Prop
  | .sae => .sae ∈ record.keyManagement
  | .psk => .wpaPsk ∈ record.keyManagement
  | .suiteB => .suiteB192 ∈ record.keyManagement
  | .eap => .wpaEap ∈ record.keyManagement ∨ .ieee8021x ∈ record.keyManagement
  | .owe => .owe ∈ record.keyManagement
  | .wep => record.wepKey = true
  | .unsecured => True

/-- The protocol is the first of the ranking that the record supports. -/
def Resolves (record : ProfileRecord) (p : Protocol) : Prop :=
  record.Supports p ∧ ∃ before after, Protocol.ranking = before ++ p :: after ∧
    ∀ q ∈ before, ¬ record.Supports q

/-- The record describes a profile for the key. -/
structure IsFor (record : ProfileRecord) (key : EntryKey) : Prop where
  name : record.name = key.name
  protocol : record.Resolves key.protocol

/-- The record is the last one in the list that describes a profile for the key. -/
def IsLastFor (record : ProfileRecord) (key : EntryKey) (records : List ProfileRecord) : Prop :=
  ∃ before after, records = before ++ record :: after ∧ record.IsFor key ∧
    ∀ later ∈ after, ¬ later.IsFor key

instance (record : ProfileRecord) : DecidablePred record.Supports
  | .sae => inferInstanceAs (Decidable (_ ∈ _))
  | .psk => inferInstanceAs (Decidable (_ ∈ _))
  | .suiteB => inferInstanceAs (Decidable (_ ∈ _))
  | .eap => inferInstanceAs (Decidable (_ ∨ _))
  | .owe => inferInstanceAs (Decidable (_ ∈ _))
  | .wep => inferInstanceAs (Decidable (_ = _))
  | .unsecured => inferInstanceAs (Decidable True)

variable {record other : ProfileRecord}

/-- The protocol of a profile is what a search through the ranking finds. -/
lemma find?_ranking (record : ProfileRecord) :
    Protocol.ranking.find? (decide <| record.Supports ·) = some record.toProfile.protocol := by
  simp only [toProfile, ProfileSecurity.protocol, ProfileSecurity.allows, SchemeSet.contains_ofList,
    Bool.or_eq_true]
  split_ifs with sae psk suiteB eap owe wep
  all_goals simp [Protocol.ranking, Supports, *]
  -- no security at all is always supported
  exact decide_eq_true trivial

/-- A record resolves to the protocol of its profile. -/
lemma resolves_iff {p : Protocol} :
    record.Resolves p ↔ record.toProfile.protocol = p := by
  rw [← Option.some_inj, ← find?_ranking, List.find?_eq_some_iff_append, Resolves]
  simp

/-- A record is for the key of its profile. -/
lemma isFor_iff {key : EntryKey} : record.IsFor key ↔ record.toProfile.key = key := by
  obtain ⟨name, p⟩ := key
  rw [Profile.key, EntryKey.mk.injEq, ← resolves_iff]
  exact ⟨fun h => ⟨h.name, h.protocol⟩, fun h => ⟨h.1, h.2⟩⟩

/-- The profile of a record that is for a key: the key and what the record says beside it. -/
lemma IsFor.toProfile_eq {key : EntryKey} (isFor : record.IsFor key) :
    record.toProfile =
      ⟨key.name, key.protocol, record.credential, record.autoJoin, record.metering⟩ := by
  rw [← isFor_iff.1 isFor]
  rfl

/-- Which protocols a record supports depends on what is listed, not on how. -/
lemma supports_congr (same : ∀ k, k ∈ record.keyManagement ↔ k ∈ other.keyManagement)
    (wep : record.wepKey = other.wepKey) (p : Protocol) :
    record.Supports p ↔ other.Supports p := by
  cases p <;> simp only [Supports, same, wep]

/-- The order of the schemes and their repetitions make no difference to the protocol. -/
lemma resolves_congr (same : ∀ k, k ∈ record.keyManagement ↔ k ∈ other.keyManagement)
    (wep : record.wepKey = other.wepKey) (p : Protocol) :
    record.Resolves p ↔ other.Resolves p := by
  simp only [Resolves, supports_congr same wep]

end ProfileRecord

namespace ProfileIndex

variable {records : List ProfileRecord} {key : EntryKey}

/-- One more profile is found under its own key and leaves the others as they are. -/
lemma getElem?_save (index : ProfileIndex) (profile : Profile) (key : EntryKey) :
    (index.save profile)[key]? = if profile.key = key then some profile else index[key]? := by
  rw [save, Std.ExtTreeMap.getElem?_insert]
  simp only [Std.LawfulEqOrd.compare_eq_iff_eq]

/-- Of the profiles that are saved one after the other, the last one for a key is found. -/
lemma getElem?_foldl_save (profiles : List Profile) (index : ProfileIndex) (key : EntryKey) :
    (profiles.foldl save index)[key]? = (profiles.reverse.find? (·.key = key)).or index[key]? := by
  induction profiles generalizing index with
  | nil => rfl
  | cons profile rest ih =>
    rw [List.foldl_cons, ih, getElem?_save, List.reverse_cons, List.find?_append, Option.or_assoc]
    congr 1
    by_cases same : profile.key = key
    · simp [same]
    · simp [same]

/-- The search from the end of the list goes for the last record that a key with a name has. -/
lemma getElem?_ofRecords (records : List ProfileRecord) (key : EntryKey) :
    (ofRecords records)[key]? =
      (records.reverse.find? fun record => key.name ≠ "" ∧ record.toProfile.key = key).map
        ProfileRecord.toProfile := by
  rw [ofRecords, ofList, getElem?_foldl_save, ← List.filter_reverse, List.find?_filter,
    ← List.map_reverse, List.find?_map, Std.ExtTreeMap.getElem?_empty, Option.or_none]
  congr 2
  funext record
  by_cases same : record.toProfile.key = key
  · subst same
    simp [Profile.key]
  · simp [same]

/-- A search from the end of a list finds what nothing behind it could take the place of. -/
lemma find?_reverse_eq_some_iff {α : Type} {found : α → Bool} {list : List α} {a : α} :
    list.reverse.find? found = some a ↔
      found a = true ∧ ∃ before after, list = before ++ a :: after ∧
        ∀ later ∈ after, found later = false := by
  rw [List.find?_eq_some_iff_append]
  refine and_congr_right fun _ => ?_
  constructor
  · rintro ⟨after, before, split, none⟩
    refine ⟨before.reverse, after.reverse, ?_, fun later hlater => ?_⟩
    · rw [← List.reverse_reverse list, split]
      simp
    · simpa using none later (List.mem_reverse.1 hlater)
  · rintro ⟨before, after, rfl, none⟩
    refine ⟨after.reverse, before.reverse, by simp, fun later hlater => ?_⟩
    simpa using none later (List.mem_reverse.1 hlater)

/-- What an index holds for a key is the profile of the last record for it. -/
lemma getElem?_ofRecords_iff {profile : Profile} :
    (ofRecords records)[key]? = some profile ↔
      key.name ≠ "" ∧ ∃ record : ProfileRecord, record.IsLastFor key records ∧
        profile = ⟨key.name, key.protocol, record.credential, record.autoJoin, record.metering⟩ := by
  rw [getElem?_ofRecords, Option.map_eq_some_iff]
  constructor
  · rintro ⟨record, found, rfl⟩
    obtain ⟨hrecord, before, after, split, none⟩ := find?_reverse_eq_some_iff.1 found
    obtain ⟨named, same⟩ := of_decide_eq_true hrecord
    have isFor := ProfileRecord.isFor_iff.2 same
    refine ⟨named, record, ⟨before, after, split, isFor, fun later hlater hlast => ?_⟩,
      isFor.toProfile_eq⟩
    exact of_decide_eq_false (none later hlater) ⟨named, ProfileRecord.isFor_iff.1 hlast⟩
  · rintro ⟨named, record, ⟨before, after, split, isFor, last⟩, rfl⟩
    refine ⟨record, find?_reverse_eq_some_iff.2 ⟨?_, before, after, split, ?_⟩,
      isFor.toProfile_eq⟩
    · exact decide_eq_true ⟨named, ProfileRecord.isFor_iff.1 isFor⟩
    · intro later hlater
      exact decide_eq_false fun h => last later hlater (ProfileRecord.isFor_iff.2 h.2)

/-- An index has the keys with a name that some record is for. -/
lemma mem_ofRecords_iff :
    key ∈ ofRecords records ↔ key.name ≠ "" ∧ ∃ record ∈ records, record.IsFor key := by
  rw [Std.ExtTreeMap.mem_iff_isSome_getElem?, getElem?_ofRecords, Option.isSome_map,
    List.find?_isSome]
  simp only [List.mem_reverse, decide_eq_true_eq, ProfileRecord.isFor_iff]
  constructor
  · rintro ⟨record, hmem, named, same⟩
    exact ⟨named, record, hmem, same⟩
  · rintro ⟨named, record, hmem, same⟩
    exact ⟨record, hmem, named, same⟩

/-- Of the records for a key the last one counts. A record is for the key of its name and of the
first protocol of the ranking that it supports, which does not depend on the order of its schemes or
on their repetitions. The index of some records has the keys with a name that they are for, and no
others. Under each of them it has a profile for that very key, which tells what the last record for
the key says about joining, metering and the credential. -/
theorem last_record_counts (records : List ProfileRecord) :
    (∀ (record : ProfileRecord) p, record.Resolves p ↔ record.toProfile.protocol = p) ∧
    (∀ record other : ProfileRecord,
      (∀ k, k ∈ record.keyManagement ↔ k ∈ other.keyManagement) → record.wepKey = other.wepKey →
        record.toProfile.protocol = other.toProfile.protocol) ∧
    (∀ key, key ∈ ofRecords records ↔ key.name ≠ "" ∧ ∃ record ∈ records, record.IsFor key) ∧
    (∀ key profile, (ofRecords records)[key]? = some profile ↔
      key.name ≠ "" ∧ ∃ record : ProfileRecord, record.IsLastFor key records ∧
        profile = ⟨key.name, key.protocol, record.credential, record.autoJoin, record.metering⟩) ∧
    ∀ key (profile : Profile), (ofRecords records)[key]? = some profile → profile.key = key := by
  refine ⟨fun _ _ => ProfileRecord.resolves_iff, fun record other same wep => ?_,
    fun _ => mem_ofRecords_iff, fun _ _ => getElem?_ofRecords_iff,
    fun key profile stored => ?_⟩
  · exact ProfileRecord.resolves_iff.1
      ((ProfileRecord.resolves_congr same wep _).2 (ProfileRecord.resolves_iff.2 rfl))
  · obtain ⟨-, record, -, rfl⟩ := getElem?_ofRecords_iff.1 stored
    rfl

/-- Two records for one key, whose schemes are listed in different ways, and one without a name. -/
theorem last_record_counts_home :
    let old : ProfileRecord := ⟨"Home", [.wpaPsk, .sae], false, true, .auto, some "old"⟩
    let nameless : ProfileRecord := ⟨"", [.sae], false, true, .auto, none⟩
    let new : ProfileRecord := ⟨"Home", [.sae, .wpaPsk, .sae], false, false, .metered, some "new"⟩
    let stored : Profile := ⟨"Home", .sae, some "new", false, .metered⟩
    (∀ k, k ∈ old.keyManagement ↔ k ∈ new.keyManagement) ∧ old.wepKey = new.wepKey ∧
      old.toProfile.protocol = new.toProfile.protocol ∧
      (ofRecords [old, nameless, new])[(⟨"Home", .sae⟩ : EntryKey)]? = some stored ∧
      stored.key = ⟨"Home", .sae⟩ := by
  intro old nameless new stored
  obtain ⟨-, alike, -, told, own⟩ := last_record_counts [old, nameless, new]
  have same : ∀ k, k ∈ old.keyManagement ↔ k ∈ new.keyManagement := by
    intro k
    cases k <;> decide
  have found : (ofRecords [old, nameless, new])[(⟨"Home", .sae⟩ : EntryKey)]? = some stored := by
    have resolves : new.Resolves .sae := ⟨by decide, [], _, rfl, nofun⟩
    exact (told _ _).2 ⟨by decide, new, ⟨[old, nameless], [], rfl, ⟨rfl, resolves⟩, nofun⟩, rfl⟩
  exact ⟨same, rfl, alike old new same rfl, found, own _ _ found⟩

end ProfileIndex

end WifiRoster
