import Mathlib.Tactic.Lemma
import WifiRoster.Attribution

/-!
# Attribution, sighting by sighting

An attribution groups a batch, folds presence over each group and fills a map while it goes through
the groups in whatever order. None of this shows in the outcome. `Policy.chosen` tells what one
sighting is listed under from the batch as a whole, `Policy.listing` filters the batch by it, and
`getElem?_entriesOfGroups` says that this is what stands under each key, for every order in which
the groups are judged. That the map does not depend on the order at all
(`entriesOfGroups_eq_entries`), which keys it has (`mem_entries`) and what stands under them
(`mem_under`) follow from it.
-/

namespace WifiRoster

/-- Whether a beacon of the name offers the protocol, usable or not. -/
def Sighting.inRange (batch : List Sighting) (name : String) (p : Protocol) : Bool :=
  batch.any fun sighting => sighting.name = name && sighting.protocols.contains p

/-- What is in range and saved under a name, told by the batch as a whole. -/
def Presence.inBatch (batch : List Sighting) (saved : Option ProfileIndex) (name : String) :
    Presence where
  pskInRange := Sighting.inRange batch name .psk
  saeInRange := Sighting.inRange batch name .sae
  oweInRange := Sighting.inRange batch name .owe
  openInRange := Sighting.inRange batch name .unsecured
  pskSaved := isSaved saved ⟨name, .psk⟩
  saeSaved := isSaved saved ⟨name, .sae⟩
  openSaved := isSaved saved ⟨name, .unsecured⟩
  oweSaved := isSaved saved ⟨name, .owe⟩

namespace Policy

/-- The protocols that a sighting of the batch is listed under. -/
def chosen (policy : Policy) (saved : Option ProfileIndex) (batch : List Sighting)
    (sighting : Sighting) : ProtocolSet :=
  let usable := sighting.protocols.difference policy.platform.unsupported
  match policy.mode with
  | .multiple => multipleSelection usable
  | .single => (singleSelection (.inBatch batch saved sighting.name) usable).2.protocols

/-- The sightings of the batch that belong under a key, in batch order. -/
def listing (policy : Policy) (saved : Option ProfileIndex) (batch : List Sighting)
    (key : EntryKey) : List Sighting :=
  if key.name.isEmpty then []
  else batch.filter fun sighting =>
    sighting.name = key.name && (policy.chosen saved batch sighting).contains key.protocol

end Policy

/-- The sightings that stand under a key, none where the key is not in the map. -/
def EntryMap.under (entries : EntryMap) (key : EntryKey) : List Sighting :=
  entries[key]?.getD []

/-- What a map holds for a key is listed under it. -/
lemma EntryMap.under_of_mem_toList {entries : EntryMap} {entry : EntryKey × List Sighting}
    (hentry : entry ∈ entries.toList) : entries.under entry.1 = entry.2 := by
  have found := Std.ExtTreeMap.mem_toList_iff_getElem?_eq_some.1 hentry
  rw [EntryMap.under, found, Option.getD_some]

/-- A key of a map is found with what is listed under it. -/
lemma EntryMap.getElem?_of_mem {entries : EntryMap} {key : EntryKey} (hkey : key ∈ entries) :
    entries[key]? = some (entries.under key) := by
  obtain ⟨listed, found⟩ := Option.isSome_iff_exists.1
    (Std.ExtTreeMap.mem_iff_isSome_getElem?.1 hkey)
  rw [under, found, Option.getD_some]

/-- A protocol is in range when some beacon of the name offers it. -/
lemma Sighting.inRange_iff {batch : List Sighting} {name : String} {p : Protocol} :
    Sighting.inRange batch name p = true ↔
      ∃ sighting ∈ batch, sighting.name = name ∧ p ∈ sighting.protocols := by
  simp [Sighting.inRange, ProtocolSet.mem_iff]

/-- The sightings of a scan are its observations at their positions. -/
lemma Sighting.mem_ofScan {scan : List Observation} {position : Nat} {observation : Observation} :
    ⟨position, observation⟩ ∈ Sighting.ofScan scan ↔ scan[position]? = some observation := by
  simp only [Sighting.ofScan, List.mem_map, Prod.exists, List.mem_zipIdx_iff_getElem?,
    Sighting.mk.injEq]
  constructor
  · rintro ⟨_, _, h, rfl, rfl⟩
    exact h
  · intro h
    exact ⟨observation, position, h, rfl, rfl⟩

/-- The sightings of a scan stand in the order of their positions. -/
lemma Sighting.pairwise_ofScan (scan : List Observation) :
    (Sighting.ofScan scan).Pairwise (·.position < ·.position) := by
  rw [Sighting.ofScan, List.pairwise_map]
  have positions : (scan.zipIdx.map Prod.snd).Pairwise (· < ·) := by
    rw [List.zipIdx_map_snd]
    exact List.pairwise_lt_range'
  exact List.pairwise_map.1 positions

/-- A choice among the sightings of a name is a choice among all sightings. -/
lemma Sighting.filter_named (batch : List Sighting) (name : String) (keep : Sighting → Bool) :
    (Sighting.named batch name).filter keep =
      batch.filter fun sighting => keep sighting && sighting.name = name :=
  List.filter_filter

/-- Going through a group adds the protocols of its members to what is in range. -/
lemma Presence.foldl_observe (members : List Sighting) (presence : Presence) :
    members.foldl (fun presence sighting => presence.observe sighting.protocols) presence =
      { presence with
        pskInRange := presence.pskInRange || members.any (·.protocols.contains .psk)
        saeInRange := presence.saeInRange || members.any (·.protocols.contains .sae)
        oweInRange := presence.oweInRange || members.any (·.protocols.contains .owe)
        openInRange := presence.openInRange || members.any (·.protocols.contains .unsecured) } := by
  -- general in the presence, since the fold goes on with what the first member has added
  induction members generalizing presence with
  | nil => simp
  | cons sighting rest ih =>
    rw [List.foldl_cons, ih]
    simp [Presence.observe, Bool.or_assoc]

/-- The presence of a name's group is the presence of the name in the batch. -/
lemma Presence.ofGroup_named (batch : List Sighting) (saved : Option ProfileIndex)
    (name : String) :
    Presence.ofGroup name (Sighting.named batch name) saved =
      Presence.inBatch batch saved name := by
  rw [Presence.ofGroup, Presence.foldl_observe]
  simp [Presence.inBatch, Sighting.inRange, Sighting.named, List.any_filter]

/-- Where one member of a list contributes and the others do not, it is all there is. -/
lemma flatMap_of_alone {α β : Type} {l : List α} (distinct : l.Nodup) {a : α} (hmem : a ∈ l)
    {f : α → List β} (others : ∀ b ∈ l, b ≠ a → f b = []) : l.flatMap f = f a := by
  -- the member stands somewhere, and what is before and after it is different from it
  obtain ⟨before, after, rfl⟩ := List.append_of_mem hmem
  obtain ⟨-, hafter, hbefore⟩ := List.nodup_append.1 distinct
  have none_before : before.flatMap f = [] :=
    List.flatMap_eq_nil_iff.2 fun b h =>
      others b (List.mem_append_left _ h) (hbefore b h a (.head _))
  have none_after : after.flatMap f = [] :=
    List.flatMap_eq_nil_iff.2 fun b h =>
      others b (List.mem_append_right _ (.tail _ h)) fun same =>
        (List.nodup_cons.1 hafter).1 (same ▸ h)
  rw [List.flatMap_append, List.flatMap_cons, none_before, none_after, List.nil_append,
    List.append_nil]

namespace Grouping

variable {batch : List Sighting} {groups : List (String × List Sighting)}

/-- The groups of a batch are those of the names that occur in it, hidden networks aside. -/
lemma mem_toList_ofBatch {name : String} {members : List Sighting} :
    (name, members) ∈ (Grouping.ofBatch batch).toList ↔
      name.isEmpty = false ∧ members = Sighting.named batch name ∧ members ≠ [] := by
  rw [Std.ExtTreeMap.mem_toList_iff_getElem?_eq_some, getElem?_ofBatch]
  split
  · next absent =>
    constructor
    · intro h
      cases h
    · rintro ⟨hname, rfl, hmembers⟩
      rcases absent with hempty | hnone
      · rw [hempty] at hname
        cases hname
      · exact absurd hnone hmembers
  · next present =>
    rw [not_or, Bool.not_eq_true] at present
    constructor
    · intro h
      cases h
      exact ⟨present.1, rfl, present.2⟩
    · rintro ⟨-, rfl, -⟩
      rfl

/-- Groups that are gone through in some order bear different names. -/
lemma pairwise_of_perm (order : groups.Perm (Grouping.ofBatch batch).toList) :
    groups.Pairwise (·.1 ≠ ·.1) := by
  have distinct := Std.ExtTreeMap.distinct_keys_toList (t := Grouping.ofBatch batch)
  refine (order.pairwise_iff fun h => h.symm).2 (distinct.imp fun differ same => differ ?_)
  rw [same]
  exact Std.ReflCmp.compare_self

/-- Every order of the groups has each of them once. -/
lemma nodup_of_perm (order : groups.Perm (Grouping.ofBatch batch).toList) : groups.Nodup :=
  (pairwise_of_perm order).imp fun differ same => differ (congrArg Prod.fst same)

/-- Where only the group of one name contributes, the order of the groups does not matter. -/
lemma flatMap_of_perm {β : Type} (order : groups.Perm (Grouping.ofBatch batch).toList)
    {f : String × List Sighting → List β} {name : String}
    (others : ∀ group ∈ groups, group.1 ≠ name → f group = []) :
    groups.flatMap f =
      if name.isEmpty ∨ Sighting.named batch name = [] then []
      else f (name, Sighting.named batch name) := by
  have mem {group} := order.mem_iff (a := group)
  split
  · next absent =>
    refine List.flatMap_eq_nil_iff.2 fun group hgroup => others group hgroup ?_
    rintro rfl
    obtain ⟨hname, hmembers, hsome⟩ := mem_toList_ofBatch.1 (mem.1 hgroup)
    rcases absent with hempty | hnone
    · rw [hempty] at hname
      cases hname
    · exact hsome (hmembers.trans hnone)
  · next present =>
    rw [not_or, Bool.not_eq_true] at present
    have hgroup := mem.2 (mem_toList_ofBatch.2 ⟨present.1, rfl, present.2⟩)
    refine flatMap_of_alone (nodup_of_perm order) hgroup fun group h differ =>
      others group h fun same => ?_
    -- two groups of one name would be the same
    obtain ⟨-, hmembers, -⟩ := mem_toList_ofBatch.1 (mem.1 h)
    exact differ (Prod.ext same (same ▸ hmembers))

end Grouping

namespace Policy

variable {policy : Policy} {saved : Option ProfileIndex} {batch : List Sighting}
  {groups : List (String × List Sighting)} {key : EntryKey}

/-- The outcome has the protocols that the mode selects. -/
lemma outcome_protocols (presence : Presence) (usable : ProtocolSet) :
    (policy.outcome presence usable).protocols =
      match policy.mode with
      | .multiple => multipleSelection usable
      | .single => (singleSelection presence usable).2.protocols := by
  obtain ⟨mode, platform⟩ := policy
  cases mode with
  | multiple => rfl
  | single =>
    simp only [outcome]
    rcases singleSelection presence usable with ⟨rule, protocols | _⟩ <;> rfl

/-- A member of a name's group is listed under the protocols chosen from the whole batch. -/
lemma verdict_protocols {sighting : Sighting} {name : String} (hname : sighting.name = name) :
    (policy.verdict (.ofGroup name (Sighting.named batch name) saved) sighting).outcome.protocols =
      policy.chosen saved batch sighting := by
  subst hname
  rw [Presence.ofGroup_named]
  exact outcome_protocols _ _

/-- A group contributes those of its members whose verdict lists them under the key. -/
lemma listed_judge (name : String) (members : List Sighting) (key : EntryKey) :
    Verdict.listed (policy.judge saved name members) key =
      members.filter fun sighting =>
        (policy.verdict (.ofGroup name members saved) sighting).isListedUnder key := by
  simp only [Verdict.listed, judge, List.filter_map, List.map_map]
  exact List.map_id'' (fun _ => rfl) _

/-- A group contributes nothing to keys of another name. -/
lemma listed_judge_of_ne {name : String} (differ : name ≠ key.name) :
    Verdict.listed (policy.judge saved name (Sighting.named batch name)) key = [] := by
  rw [listed_judge, List.filter_eq_nil_iff]
  intro sighting hmem hlisted
  have hname : sighting.name = name := by simpa using (List.mem_filter.1 hmem).2
  rw [Verdict.isListedUnder, Bool.and_eq_true, beq_iff_eq] at hlisted
  exact differ (hname.symm.trans hlisted.1)

/-- The group of a key's name contributes the sightings that belong under the key. -/
lemma listed_judge_named (hname : key.name.isEmpty = false) :
    Verdict.listed (policy.judge saved key.name (Sighting.named batch key.name)) key =
      policy.listing saved batch key := by
  rw [listed_judge, listing, hname, if_neg Bool.false_ne_true, Sighting.filter_named]
  refine List.filter_congr fun sighting _ => ?_
  -- the verdict is about a member of this very group only where the names agree
  by_cases h : sighting.name = key.name
  · rw [Verdict.isListedUnder, verdict_protocols h]
    simp [verdict, h]
  · simp [h]

/-- Nothing belongs under a key of a name that no group bears. -/
lemma listing_eq_nil (absent : key.name.isEmpty ∨ Sighting.named batch key.name = []) :
    policy.listing saved batch key = [] := by
  rw [listing]
  split
  · rfl
  · next hname =>
    have hnone := List.filter_eq_nil_iff.1 (absent.resolve_left hname)
    refine List.filter_eq_nil_iff.2 fun sighting hmem hlisted => hnone sighting hmem ?_
    exact (Bool.and_eq_true_iff.1 hlisted).1

/-- What stands under a key, in whatever order the groups are judged. -/
lemma getElem?_entriesOfGroups (order : groups.Perm (Grouping.ofBatch batch).toList)
    (key : EntryKey) :
    (policy.entriesOfGroups saved groups)[key]? =
      if policy.listing saved batch key = [] then none
      else some (policy.listing saved batch key) := by
  have others : ∀ group ∈ groups, group.1 ≠ key.name →
      Verdict.listed (policy.judge saved group.1 group.2) key = [] := by
    intro group hgroup differ
    obtain ⟨-, hmembers, -⟩ := Grouping.mem_toList_ofBatch.1 (order.mem_iff.1 hgroup)
    rw [hmembers]
    exact listed_judge_of_ne differ
  have listed : Verdict.listed (policy.verdicts saved groups) key =
      policy.listing saved batch key := by
    calc Verdict.listed (policy.verdicts saved groups) key
      _ = groups.flatMap fun group =>
            Verdict.listed (policy.judge saved group.1 group.2) key := by
          simp only [Verdict.listed, verdicts, List.filter_flatMap, List.map_flatMap]
      _ = if key.name.isEmpty ∨ Sighting.named batch key.name = [] then []
          else Verdict.listed (policy.judge saved key.name (Sighting.named batch key.name)) key :=
          Grouping.flatMap_of_perm order others
      _ = policy.listing saved batch key := by
          split
          · next absent => exact (listing_eq_nil absent).symm
          · next present =>
            rw [not_or, Bool.not_eq_true] at present
            exact listed_judge_named present.1
  rw [entriesOfGroups, EntryMap.getElem?_ofVerdicts, listed]

/-- A key is in the map exactly when something is listed under it. -/
lemma getElem?_entries (policy : Policy) (saved : Option ProfileIndex) (batch : List Sighting)
    (key : EntryKey) :
    (policy.entries saved batch)[key]? =
      if policy.listing saved batch key = [] then none
      else some (policy.listing saved batch key) :=
  getElem?_entriesOfGroups (List.Perm.refl _) key

/-- The order in which the groups are judged does not show in the map. -/
lemma entriesOfGroups_eq_entries (order : groups.Perm (Grouping.ofBatch batch).toList) :
    policy.entriesOfGroups saved groups = policy.entries saved batch := by
  apply Std.ExtTreeMap.ext_getElem?
  intro key
  rw [getElem?_entriesOfGroups order, getElem?_entries]

/-- A sighting belongs under a key of its name if its chosen protocols have that of the key. -/
lemma mem_listing {sighting : Sighting} :
    sighting ∈ policy.listing saved batch key ↔
      key.name ≠ "" ∧ sighting ∈ batch ∧ sighting.name = key.name ∧
        key.protocol ∈ policy.chosen saved batch sighting := by
  rw [listing, ne_eq, ← String.isEmpty_iff]
  split
  · next hname => simp [hname]
  · next hname => simp [hname, ProtocolSet.mem_iff]

/-- A key is in the map if some sighting belongs under it. -/
lemma mem_entries :
    key ∈ policy.entries saved batch ↔
      ∃ sighting, sighting ∈ policy.listing saved batch key := by
  rw [Std.ExtTreeMap.mem_iff_isSome_getElem?, getElem?_entries]
  split
  · next hnone => simp [hnone]
  · next hsome =>
    rw [Option.isSome_some, eq_self_iff_true, true_iff]
    exact List.exists_mem_of_ne_nil _ hsome

/-- What stands under a key of the map is what belongs there. -/
lemma under_entries (policy : Policy) (saved : Option ProfileIndex) (batch : List Sighting)
    (key : EntryKey) :
    (policy.entries saved batch).under key = policy.listing saved batch key := by
  rw [EntryMap.under, getElem?_entries]
  split
  · next hnone => rw [hnone, Option.getD_none]
  · exact Option.getD_some

/-- A sighting is listed under a key with its name and a protocol that is chosen for it. -/
lemma mem_under {sighting : Sighting} :
    sighting ∈ (policy.entries saved batch).under key ↔
      key.name ≠ "" ∧ sighting ∈ batch ∧ sighting.name = key.name ∧
        key.protocol ∈ policy.chosen saved batch sighting := by
  rw [under_entries, mem_listing]

/-- A key is in the map if some sighting stands under it. -/
lemma mem_entries_iff_under :
    key ∈ policy.entries saved batch ↔
      ∃ sighting, sighting ∈ (policy.entries saved batch).under key := by
  rw [mem_entries, under_entries]

/-- A key is in the map as long as something is left under it. -/
lemma mem_entries_iff_ne_nil :
    key ∈ policy.entries saved batch ↔ (policy.entries saved batch).under key ≠ [] := by
  rw [mem_entries_iff_under]
  constructor
  · rintro ⟨sighting, hkey⟩
    exact List.ne_nil_of_mem hkey
  · exact List.exists_mem_of_ne_nil _

/-- Maps are equal when the same belongs under each key. -/
lemma entries_eq_of_listing {other : Option ProfileIndex} {part : List Sighting}
    (same : ∀ key, policy.listing other part key = policy.listing saved batch key) :
    policy.entries other part = policy.entries saved batch := by
  apply Std.ExtTreeMap.ext_getElem?
  intro key
  rw [getElem?_entries, getElem?_entries, same]

/-- Maps of a batch are equal when each sighting is listed under the same protocols. -/
lemma entries_congr {other : Option ProfileIndex}
    (same : ∀ sighting ∈ batch,
      policy.chosen other batch sighting = policy.chosen saved batch sighting) :
    policy.entries other batch = policy.entries saved batch := by
  apply entries_eq_of_listing
  intro key
  rw [listing, listing]
  split
  · rfl
  · refine List.filter_congr fun sighting hmem => ?_
    rw [same sighting hmem]

/-- What stands under a key is what belongs there, and that is something. -/
lemma getElem?_eq_some_iff (order : groups.Perm (Grouping.ofBatch batch).toList)
    {listed : List Sighting} :
    (policy.entriesOfGroups saved groups)[key]? = some listed ↔
      listed = policy.listing saved batch key ∧ listed ≠ [] := by
  rw [getElem?_entriesOfGroups order]
  split
  · next hnone =>
    rw [hnone]
    exact ⟨nofun, fun h => absurd h.1 h.2⟩
  · next hsome =>
    constructor
    · rintro ⟨⟩
      exact ⟨rfl, hsome⟩
    · rintro ⟨rfl, -⟩
      rfl

/-- What belongs under a key of a scan stands there in the order of its positions. -/
lemma pairwise_listing (scan : List Observation) :
    (policy.listing saved (Sighting.ofScan scan) key).Pairwise (·.position < ·.position) := by
  rw [listing]
  split
  · exact .nil
  · exact (Sighting.pairwise_ofScan scan).filter _

/-- The map of a scan, position by position. Whatever the order in which the groups of names are
judged, a key is in the map exactly when its name is not empty and some position of the scan has an
observation of that name among whose chosen protocols is that of the key; under the key stand these
positions, each once and in increasing order; and the map is the same for every order. -/
theorem entriesOfGroups_pointwise (policy : Policy) (saved : Option ProfileIndex)
    (scan : List Observation) {groups : List (String × List Sighting)}
    (order : groups.Perm (Grouping.ofBatch (Sighting.ofScan scan)).toList) (key : EntryKey) :
    (key ∈ policy.entriesOfGroups saved groups ↔
      key.name ≠ "" ∧ ∃ position observation, scan[position]? = some observation ∧
        observation.name = key.name ∧
        key.protocol ∈ policy.chosen saved (Sighting.ofScan scan) ⟨position, observation⟩) ∧
    (∀ listed, (policy.entriesOfGroups saved groups)[key]? = some listed →
      listed.Pairwise (·.position < ·.position) ∧
      ∀ position observation, ⟨position, observation⟩ ∈ listed ↔
        scan[position]? = some observation ∧ observation.name = key.name ∧
        key.protocol ∈ policy.chosen saved (Sighting.ofScan scan) ⟨position, observation⟩) ∧
    policy.entriesOfGroups saved groups = policy.entries saved (Sighting.ofScan scan) := by
  have same : policy.entriesOfGroups saved groups =
      policy.entries saved (Sighting.ofScan scan) := entriesOfGroups_eq_entries order
  refine ⟨?_, ?_, same⟩
  · rw [same, mem_entries]
    constructor
    · rintro ⟨⟨position, observation⟩, hmem⟩
      obtain ⟨hname, hscan, hsame, hchosen⟩ := mem_listing.1 hmem
      exact ⟨hname, position, observation, Sighting.mem_ofScan.1 hscan, hsame, hchosen⟩
    · rintro ⟨hname, position, observation, hscan, hsame, hchosen⟩
      exact ⟨_, mem_listing.2 ⟨hname, Sighting.mem_ofScan.2 hscan, hsame, hchosen⟩⟩
  · intro listed hlisted
    obtain ⟨rfl, hsome⟩ := (getElem?_eq_some_iff order).1 hlisted
    obtain ⟨member, hmember⟩ := List.exists_mem_of_ne_nil _ hsome
    have hname : key.name ≠ "" := (mem_listing.1 hmember).1
    refine ⟨pairwise_listing scan, fun position observation => ?_⟩
    rw [mem_listing, Sighting.mem_ofScan]
    exact and_iff_right hname

/-- Two beacons of one network with another in between, the groups judged backwards. -/
theorem entriesOfGroups_pointwise_backwards :
    let scan : List Observation :=
      [⟨"Home", some "[PSK]", -40⟩, ⟨"Cafe", none, -50⟩, ⟨"Home", some "[SAE]", -70⟩]
    let batch := Sighting.ofScan scan
    let groups := (Grouping.ofBatch batch).toList.reverse
    groups.Perm (Grouping.ofBatch batch).toList ∧
      (⟨"Home", .psk⟩ : EntryKey) ∈ (⟨.single, .full⟩ : Policy).entriesOfGroups none groups := by
  intro scan batch groups
  have order : groups.Perm (Grouping.ofBatch batch).toList := List.reverse_perm _
  refine ⟨order, (entriesOfGroups_pointwise _ none scan order _).1.2 ⟨by decide, ?_⟩⟩
  exact ⟨2, ⟨"Home", some "[SAE]", -70⟩, rfl, rfl, by decide⟩

end Policy

end WifiRoster
