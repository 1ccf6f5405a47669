import Mathlib.Algebra.GroupWithZero.Nat
import Mathlib.Data.List.Dedup
import WifiRoster.Attribution.Account
import WifiRoster.Proofs.AtMostOnce
import WifiRoster.Proofs.Remapping

/-!
# The balance of an attribution

Each sighting of a batch has one fate: its network is hidden, it is coalesced, it is judged and
listed under nothing, or it is listed. The account of an attribution tells the first by a number in
its summary and the next two by an event each, so that numbers and events add up to the batch.

The verdicts are given group by group, in any order of the groups, but together they are the
verdicts on the named sightings of the batch (`verdicts_perm`). So whatever is counted among them
can be counted over the batch. A verdict has exactly one of three fates (`Verdict.fate`), two of which
show in the event that accounts for it. In single selection the lists of the map, put together, hold
each listed sighting once (`lists_perm`), so that their lengths add up to the number of listed
sightings. `account_balances` puts the sums together.
-/

namespace WifiRoster

/-- Whether a judged sighting is neither coalesced nor listed. -/
def Verdict.isUnlisted (verdict : Verdict) : Bool :=
  !verdict.isCoalesced && verdict.outcome.protocols.isEmpty

/-- Whether a judged sighting is listed under some protocol. -/
def Verdict.isListed (verdict : Verdict) : Bool := !verdict.outcome.protocols.isEmpty

/-- The verdict on a sighting, told by the batch as a whole. -/
def Policy.verdictIn (policy : Policy) (saved : Option ProfileIndex) (batch : List Sighting)
    (sighting : Sighting) : Verdict :=
  policy.verdict (.inBatch batch saved sighting.name) sighting

namespace Verdict

/-- What becomes of a judged sighting. -/
inductive Fate (verdict : Verdict) : Prop where
  | coalesced : verdict.isCoalesced = true → verdict.isUnlisted = false →
      verdict.isListed = false → Fate verdict
  | unlisted : verdict.isCoalesced = false → verdict.isUnlisted = true →
      verdict.isListed = false → Fate verdict
  | listed : verdict.isCoalesced = false → verdict.isUnlisted = false →
      verdict.isListed = true → Fate verdict

/-- Every verdict has one of the fates. -/
lemma fate (verdict : Verdict) : Fate verdict := by
  obtain ⟨sighting, usable, outcome⟩ := verdict
  cases outcome with
  | coalesced rule => exact .coalesced rfl rfl rfl
  | assigned protocols =>
    cases hempty : protocols.isEmpty with
    | true => exact .unlisted rfl hempty (congrArg Bool.not hempty)
    | false => exact .listed rfl hempty (congrArg Bool.not hempty)

/-- Every verdict is counted under exactly one of the fates. -/
lemma length_eq_sum_fates (verdicts : List Verdict) :
    verdicts.length = verdicts.countP isCoalesced + verdicts.countP isUnlisted +
      verdicts.countP isListed := by
  induction verdicts with
  | nil => rfl
  | cons verdict rest ih =>
    rw [List.length_cons, ih, List.countP_cons, List.countP_cons, List.countP_cons]
    cases verdict.fate with
    | _ hc hu hl =>
      simp only [hc, hu, hl, if_true, Bool.false_eq_true, if_false]
      omega

/-- A coalesced sighting shows in the account, and so does one that is listed under nothing. -/
lemma coalesced_event (verdict : Verdict) :
    (verdict.event?.map fun event =>
      decide (event.message = "Coalesced observation into sibling entry")).getD false =
        verdict.isCoalesced := by
  obtain ⟨sighting, usable, outcome⟩ := verdict
  cases outcome with
  | coalesced rule => rfl
  | assigned protocols =>
    simp only [event?, isCoalesced]
    split
    · exact decide_eq_false (by decide :
        "Observation matched no entry key" ≠ "Coalesced observation into sibling entry")
    · rfl

/-- A verdict is reported as matching no key exactly when it is unlisted. -/
lemma unlisted_event (verdict : Verdict) :
    (verdict.event?.map fun event =>
      decide (event.message = "Observation matched no entry key")).getD false =
        verdict.isUnlisted := by
  obtain ⟨sighting, usable, outcome⟩ := verdict
  cases outcome with
  | coalesced rule =>
    exact decide_eq_false (by decide :
      "Coalesced observation into sibling entry" ≠ "Observation matched no entry key")
  | assigned protocols =>
    simp only [event?, isUnlisted, isCoalesced, Outcome.protocols]
    cases protocols.isEmpty with
    | true => rfl
    | false => rfl

end Verdict

/-- Lists that share out a batch make up the part of it that they cover: what stands in one of them
stands there as often as in the batch, and in no other. -/
lemma flatMap_perm_filter {α β : Type} [DecidableEq β] {l : List α} (distinct : l.Nodup)
    {f : α → List β} {batch : List β} {covered : β → Bool}
    (part : ∀ a ∈ l, ∀ x ∈ f a, covered x = true ∧ (f a).count x = batch.count x)
    (cover : ∀ x ∈ batch, covered x = true → ∃ a ∈ l, x ∈ f a)
    (alone : ∀ a ∈ l, ∀ b ∈ l, ∀ x ∈ f a, x ∈ f b → a = b) :
    (l.flatMap f).Perm (batch.filter covered) := by
  rw [List.perm_iff_count]
  intro x
  by_cases hx : x ∈ l.flatMap f
  · obtain ⟨a, hmem, hax⟩ := List.mem_flatMap.1 hx
    have others : ∀ b ∈ l, b ≠ a → (f b).filter (· == x) = [] := by
      intro b hb differ
      rw [List.filter_eq_nil_iff]
      intro y hy same
      obtain rfl : y = x := beq_iff_eq.1 same
      exact differ (alone b hb a hmem y hy hax)
    obtain ⟨hcovered, hcount⟩ := part a hmem x hax
    rw [List.count_eq_length_filter, List.filter_flatMap, flatMap_of_alone distinct hmem others,
      ← List.count_eq_length_filter, hcount, List.count_filter hcovered]
  · rw [List.count_eq_zero.2 hx, eq_comm, List.count_eq_zero]
    intro hfilter
    obtain ⟨hbatch, hcovered⟩ := List.mem_filter.1 hfilter
    exact hx (List.mem_flatMap.2 (cover x hbatch hcovered))

section Groups

variable {policy : Policy} {saved : Option ProfileIndex} {batch : List Sighting}
  {groups : List (String × List Sighting)}

/-- The groups together hold the named sightings of the batch. -/
lemma Grouping.members_perm (order : groups.Perm (Grouping.ofBatch batch).toList) :
    (groups.flatMap (·.2)).Perm (batch.filter (!·.name.isEmpty)) := by
  have told {group} (hgroup : group ∈ groups) :=
    Grouping.mem_toList_ofBatch.1 (order.mem_iff.1 hgroup)
  apply flatMap_perm_filter (Grouping.nodup_of_perm order)
  · intro group hgroup sighting hmember
    obtain ⟨hname, hmembers, -⟩ := told hgroup
    rw [hmembers] at hmember ⊢
    have same := (Sighting.mem_named.1 hmember).2
    rw [same, hname]
    exact ⟨rfl, List.count_filter (decide_eq_true same)⟩
  · intro sighting hmem hname
    have hnamed := Sighting.mem_named.2 ⟨hmem, rfl⟩
    refine ⟨(sighting.name, _), order.mem_iff.2 ?_, hnamed⟩
    exact Grouping.mem_toList_ofBatch.2 ⟨by simpa using hname, rfl, List.ne_nil_of_mem hnamed⟩
  · intro group hgroup other hother sighting hmember hsame
    obtain ⟨-, hmembers, -⟩ := told hgroup
    obtain ⟨-, hothers, -⟩ := told hother
    rw [hmembers] at hmember
    rw [hothers] at hsame
    -- both groups bear the name of the sighting
    have names : group.1 = other.1 :=
      (Sighting.mem_named.1 hmember).2.symm.trans (Sighting.mem_named.1 hsame).2
    exact Prod.ext names (hmembers.trans (names ▸ hothers.symm))

/-- There is a group for each name that is not empty. -/
lemma Grouping.length_eq (order : groups.Perm (Grouping.ofBatch batch).toList) :
    groups.length = ((batch.map (·.name)).filter (· ≠ "")).dedup.length := by
  have distinct : (groups.map (·.1)).Nodup := List.pairwise_map.2 (Grouping.pairwise_of_perm order)
  have names : (groups.map (·.1)).Perm ((batch.map (·.name)).filter (· ≠ "")).dedup := by
    rw [List.perm_ext_iff_of_nodup distinct (List.nodup_dedup _)]
    intro name
    rw [List.mem_dedup, List.mem_filter, List.mem_map, List.mem_map, decide_eq_true_eq]
    constructor
    · rintro ⟨⟨_, members⟩, hgroup, rfl⟩
      obtain ⟨hname, rfl, hsome⟩ := Grouping.mem_toList_ofBatch.1 (order.mem_iff.1 hgroup)
      obtain ⟨sighting, hnamed⟩ := List.exists_mem_of_ne_nil _ hsome
      obtain ⟨hmem, same⟩ := Sighting.mem_named.1 hnamed
      refine ⟨⟨sighting, hmem, same⟩, ?_⟩
      rintro rfl
      cases hname
    · rintro ⟨⟨sighting, hmem, rfl⟩, hname⟩
      have hsome := List.ne_nil_of_mem (Sighting.mem_named.2 ⟨hmem, rfl⟩)
      refine ⟨(sighting.name, Sighting.named batch sighting.name), order.mem_iff.2 ?_, rfl⟩
      refine Grouping.mem_toList_ofBatch.2 ⟨?_, rfl, hsome⟩
      rwa [← Bool.not_eq_true, String.isEmpty_iff]
  rw [← names.length_eq, List.length_map]

namespace Policy

/-- The verdicts are those on the named sightings of the batch, whatever the order of the groups. -/
lemma verdicts_perm (order : groups.Perm (Grouping.ofBatch batch).toList) :
    (policy.verdicts saved groups).Perm
      ((batch.filter (!·.name.isEmpty)).map (policy.verdictIn saved batch)) := by
  have told : policy.verdicts saved groups =
      (groups.flatMap (·.2)).map (policy.verdictIn saved batch) := by
    rw [verdicts, List.map_flatMap]
    refine List.flatMap_congr fun group hgroup => ?_
    obtain ⟨name, members⟩ := group
    obtain ⟨-, rfl, -⟩ := Grouping.mem_toList_ofBatch.1 (order.mem_iff.1 hgroup)
    show policy.judge saved name _ = _
    rw [judge, Presence.ofGroup_named]
    refine List.map_congr_left fun sighting hnamed => ?_
    rw [verdictIn, (Sighting.mem_named.1 hnamed).2]
  rw [told]
  exact (Grouping.members_perm order).map _

/-- A sighting stands in the map if it bears a name and its verdict lists it. -/
lemma isListed_entries {sighting : Sighting} (hmem : sighting ∈ batch) :
    (policy.entries saved batch).isListed sighting = true ↔
      ((policy.verdictIn saved batch sighting).isListed && !sighting.name.isEmpty) = true := by
  have chosen : (policy.verdictIn saved batch sighting).outcome.protocols =
      policy.chosen saved batch sighting := outcome_protocols _ _
  rw [EntryMap.isListed_iff, Bool.and_eq_true, Verdict.isListed, chosen, Bool.not_eq_true',
    ← Bool.not_eq_true, ProtocolSet.isEmpty_iff, Bool.not_eq_true', ← Bool.not_eq_true,
    String.isEmpty_iff]
  simp only [mem_under]
  constructor
  · rintro ⟨key, hname, -, same, hchosen⟩
    exact ⟨fun hnone => hnone _ hchosen, same.trans_ne hname⟩
  · rintro ⟨hsome, hname⟩
    obtain ⟨p, hp⟩ := not_forall_not.1 hsome
    exact ⟨⟨sighting.name, p⟩, hname, hmem, rfl, hp⟩

/-- Nothing is coalesced in the mode that lists all protocols of a sighting. -/
lemma isCoalesced_verdictIn_multiple (multiple : policy.mode = .multiple) (sighting : Sighting) :
    (policy.verdictIn saved batch sighting).isCoalesced = false := by
  obtain ⟨mode, platform⟩ := policy
  obtain rfl : mode = .multiple := multiple
  rfl

/-- A sighting stands under a key as often as it comes in the batch. -/
lemma count_under {sighting : Sighting} {key : EntryKey}
    (hkey : sighting ∈ (policy.entries saved batch).under key) :
    ((policy.entries saved batch).under key).count sighting = batch.count sighting := by
  obtain ⟨hname, -, same, hchosen⟩ := mem_under.1 hkey
  rw [under_entries, listing, if_neg (mt String.isEmpty_iff.1 hname), List.count_filter]
  rw [Bool.and_eq_true]
  exact ⟨decide_eq_true same, hchosen⟩

/-- In single selection the lists of the map, put together, hold each listed sighting of the batch
once. -/
lemma lists_perm {platform : Platform} :
    let entries := (⟨.single, platform⟩ : Policy).entries saved batch
    (entries.keys.flatMap entries.under).Perm (batch.filter entries.isListed) := by
  intro entries
  apply flatMap_perm_filter Std.ExtTreeMap.nodup_keys
  · intro key _ sighting hkey
    exact ⟨EntryMap.isListed_iff.2 ⟨key, hkey⟩, count_under hkey⟩
  · intro sighting _ hlisted
    obtain ⟨key, hkey⟩ := EntryMap.isListed_iff.1 hlisted
    exact ⟨key, Std.ExtTreeMap.mem_keys.2 (mem_entries_iff_under.2 ⟨sighting, hkey⟩), hkey⟩
  · intro key _ other _ sighting hkey hother
    exact eq_of_under hkey hother

/-- In single selection the lengths of the lists add up to the number of listed sightings. -/
lemma countP_isListed_single {platform : Platform} :
    let entries := (⟨.single, platform⟩ : Policy).entries saved batch
    batch.countP entries.isListed = (entries.toList.map (·.2.length)).sum := by
  intro entries
  have lengths : entries.toList.map (·.2.length) =
      entries.keys.map fun key => (entries.under key).length := by
    rw [← Std.ExtTreeMap.map_fst_toList_eq_keys, List.map_map]
    refine List.map_congr_left fun entry hentry => ?_
    rw [Function.comp_apply, EntryMap.under_of_mem_toList hentry]
  rw [lengths, ← List.length_flatMap, lists_perm.length_eq, List.countP_eq_length_filter]

/-- The events of an attribution that answer to a test are those of its verdicts, if the summary
does not answer to it. -/
lemma countP_accountGroups {test : Event → Bool}
    (apart : test (policy.summary saved batch groups) = false) :
    (policy.accountGroups saved batch groups).countP test =
      (policy.verdicts saved groups).countP fun verdict => (verdict.event?.map test).getD false := by
  rw [accountGroups, List.countP_append, List.countP_filterMap, List.countP_singleton, apart]
  rfl

/-- Every sighting is accounted for exactly once, in both modes and whatever the order in which
the groups are judged. The last event sums the batch up: its observations, its different names, its
hidden networks, the sightings that some event calls coalesced, and the keys of the map. Multiple
selection coalesces nothing. The sightings of hidden networks, those that an event calls coalesced,
those that an event says are listed under nothing, and those that stand in the map add up to the
batch. In single selection the last number is that of all the places in the map. -/
theorem account_balances (policy : Policy) (saved : Option ProfileIndex) (batch : List Sighting)
    {groups : List (String × List Sighting)}
    (order : groups.Perm (Grouping.ofBatch batch).toList) :
    let entries := policy.entriesOfGroups saved groups
    let events := policy.accountGroups saved batch groups
    let coalesced := events.countP fun event =>
      event.message = "Coalesced observation into sibling entry"
    let unlisted := events.countP fun event => event.message = "Observation matched no entry key"
    events.getLast? = some (.attributed policy.mode batch.length
        ((batch.map (·.name)).filter (· ≠ "")).dedup.length (batch.countP (·.name.isEmpty))
        coalesced entries.size) ∧
      (policy.mode = .multiple → coalesced = 0) ∧
      batch.length = batch.countP (·.name.isEmpty) + coalesced + unlisted +
        batch.countP entries.isListed ∧
      (policy.mode = .single →
        batch.countP entries.isListed = (entries.toList.map (·.2.length)).sum) := by
  intro entries events coalesced unlisted
  have same : entries = policy.entries saved batch := entriesOfGroups_eq_entries order
  have left : coalesced = (policy.verdicts saved groups).countP (·.isCoalesced) := by
    rw [← funext Verdict.coalesced_event]
    exact countP_accountGroups (decide_eq_false (by decide :
      "Mapped scan batch to entry keys" ≠ "Coalesced observation into sibling entry"))
  have dropped : unlisted = (policy.verdicts saved groups).countP (·.isUnlisted) := by
    rw [← funext Verdict.unlisted_event]
    exact countP_accountGroups (decide_eq_false (by decide :
      "Mapped scan batch to entry keys" ≠ "Observation matched no entry key"))
  have listed : batch.countP entries.isListed =
      (policy.verdicts saved groups).countP (·.isListed) := by
    rw [same, (verdicts_perm order).countP_eq, List.countP_map, List.countP_filter]
    exact List.countP_congr fun sighting hmem => isListed_entries hmem
  refine ⟨?_, ?_, ?_, ?_⟩
  · rw [left, ← Grouping.length_eq order]
    exact List.getLast?_concat
  · intro multiple
    rw [left, (verdicts_perm order).countP_eq, List.countP_map, List.countP_eq_zero]
    intro sighting _
    exact ne_true_of_eq_false (isCoalesced_verdictIn_multiple multiple sighting)
  · have fates := Verdict.length_eq_sum_fates (policy.verdicts saved groups)
    rw [← left, ← dropped, ← listed, (verdicts_perm order).length_eq, List.length_map,
      ← List.countP_eq_length_filter] at fates
    have names : batch.length =
        batch.countP (·.name.isEmpty) + batch.countP (!·.name.isEmpty) := by
      rw [List.length_eq_countP_add_countP (·.name.isEmpty)]
      simp only [Bool.not_eq_true, Bool.decide_eq_false]
    omega
  · intro single
    rw [same]
    obtain ⟨mode, platform⟩ := policy
    obtain rfl : mode = .single := single
    exact countP_isListed_single

/-- Four beacons, one for each fate, with the groups judged backwards. -/
theorem account_balances_cafe :
    let batch := Sighting.ofScan
      [⟨"Home", some "[WPA2-PSK-CCMP]", -40⟩, ⟨"", none, -45⟩, ⟨"Cafe", some "[ESS]", -50⟩,
        ⟨"Cafe", some "[RSN-OWE-CCMP]", -55⟩]
    let groups := (Grouping.ofBatch batch).toList.reverse
    let single : Policy := ⟨.single, .full⟩
    let multiple : Policy := ⟨.multiple, .full⟩
    groups.Perm (Grouping.ofBatch batch).toList ∧
      (single.accountGroups none batch groups).getLast? =
        some (.attributed .single 4 2 1 1 1) ∧
      ((single.entriesOfGroups none groups).toList.map (·.2.length)).sum = 1 ∧
      (multiple.accountGroups none batch groups).countP
        (fun event => event.message = "Coalesced observation into sibling entry") = 0 := by
  intro batch groups single multiple
  have order : groups.Perm (Grouping.ofBatch batch).toList := List.reverse_perm _
  obtain ⟨summed, -, -, places⟩ := account_balances single none batch order
  obtain ⟨-, nothing, -, -⟩ := account_balances multiple none batch order
  exact ⟨order, summed.trans (by decide), (places rfl).symm.trans (by decide), nothing rfl⟩

end Policy

end Groups

end WifiRoster
