import WifiRoster.Proofs.Disappearance

/-!
# Networks apart

What is listed under a network name is settled by the name's own sightings and by whether profiles
are saved under four of its keys. Two attributions are compared here, of any two batches with any
two sets of saved profiles. What a sighting is listed under is a function of the presence of its
name and of the protocols that it offers (`chosen_eq_of_presence`), so where two attributions have
the same presence of a name, sightings of that name that offer the same are listed under the same
keys (`mem_under_congr`).

The main statement, `networks_apart`, adds what follows for the name as a whole: other networks and
their profiles, the order and number of its sightings, signal levels, profiles for protocols
without a bit in `Presence`, and whatever a profile holds make no difference to its entries.
-/

namespace WifiRoster

/-- The observations under each key, without their positions. -/
def EntryMap.observations (entries : EntryMap) : Std.ExtTreeMap EntryKey (List Observation) :=
  entries.map fun _ listed => listed.map (·.observation)

variable {batch other : List Sighting} {saved profiles : Option ProfileIndex} {name : String}

/-- Presence is told by four protocols in range and four keys. -/
lemma Presence.inBatch_eq
    (range : ∀ p ∈ [Protocol.psk, .sae, .owe, .unsecured],
      Sighting.inRange batch name p = Sighting.inRange other name p)
    (held : ∀ p ∈ [Protocol.psk, .sae, .unsecured, .owe],
      isSaved saved ⟨name, p⟩ = isSaved profiles ⟨name, p⟩) :
    Presence.inBatch batch saved name = Presence.inBatch other profiles name := by
  simp only [List.forall_mem_cons] at range held
  obtain ⟨psk, sae, owe, unsecured, -⟩ := range
  obtain ⟨pskHeld, saeHeld, openHeld, oweHeld, -⟩ := held
  simp only [Presence.inBatch, psk, sae, owe, unsecured, pskHeld, saeHeld, openHeld, oweHeld]

/-- What is in range in one batch is in range in another that has the same to offer. -/
lemma Sighting.inRange_of_offers
    (offered : ∀ protocols, Sighting.Offers batch name protocols →
      Sighting.Offers other name protocols) {p : Protocol}
    (range : Sighting.inRange batch name p = true) : Sighting.inRange other name p = true := by
  obtain ⟨protocols, offers, hp⟩ := Sighting.offers_of_inRange range
  exact (offered protocols offers).inRange hp

/-- What is in range is told by the sets of protocols that are offered. -/
lemma Sighting.inRange_eq_of_offers
    (same : ∀ protocols, Sighting.Offers batch name protocols ↔
      Sighting.Offers other name protocols) (p : Protocol) :
    Sighting.inRange batch name p = Sighting.inRange other name p := by
  rw [Bool.eq_iff_iff]
  constructor
  · exact Sighting.inRange_of_offers fun protocols => (same protocols).1
  · exact Sighting.inRange_of_offers fun protocols => (same protocols).2

/-- A sighting of a name is one in the batch that has the name. -/
lemma Sighting.mem_named {sighting : Sighting} :
    sighting ∈ Sighting.named batch name ↔ sighting ∈ batch ∧ sighting.name = name := by
  simp [Sighting.named]

/-- The observations of a name are those in the batch that have the name. -/
lemma Sighting.map_observation_named (batch : List Sighting) (name : String) :
    (Sighting.named batch name).map (·.observation) =
      (batch.map (·.observation)).filter fun observation => observation.name = name := by
  rw [List.filter_map]
  rfl

/-- What is offered is told by the observations of the name. -/
lemma Sighting.offers_iff_of_named
    (same : (Sighting.named batch name).map (·.observation) =
      (Sighting.named other name).map (·.observation)) (protocols : ProtocolSet) :
    Sighting.Offers batch name protocols ↔ Sighting.Offers other name protocols := by
  have told (batch : List Sighting) : Sighting.Offers batch name protocols ↔
      ∃ observation ∈ (Sighting.named batch name).map (·.observation),
        observation.protocols = protocols := by
    constructor
    · rintro ⟨sighting, hmem, hname, rfl⟩
      have hnamed := Sighting.mem_named.2 ⟨hmem, hname⟩
      exact ⟨sighting.observation, List.mem_map_of_mem hnamed, rfl⟩
    · rintro ⟨_, hmap, rfl⟩
      obtain ⟨sighting, hnamed, rfl⟩ := List.mem_map.1 hmap
      obtain ⟨hmem, hname⟩ := Sighting.mem_named.1 hnamed
      exact ⟨sighting, hmem, hname, rfl⟩
  rw [told, told, same]

/-- The observations of a name settle its presence, if the same is saved under the four keys. -/
lemma Presence.inBatch_eq_of_named
    (same : (Sighting.named batch name).map (·.observation) =
      (Sighting.named other name).map (·.observation))
    (held : ∀ p ∈ [Protocol.psk, .sae, .unsecured, .owe],
      isSaved saved ⟨name, p⟩ = isSaved profiles ⟨name, p⟩) :
    Presence.inBatch batch saved name = Presence.inBatch other profiles name := by
  refine Presence.inBatch_eq (fun p _ => ?_) held
  exact Sighting.inRange_eq_of_offers (Sighting.offers_iff_of_named same) p

namespace Policy

variable {policy : Policy}

/-- What a sighting is listed under is told by the presence of its name and by what it offers. -/
lemma chosen_eq_of_presence {sighting sibling : Sighting}
    (presence : Presence.inBatch batch saved sighting.name =
      Presence.inBatch other profiles sibling.name)
    (same : sighting.protocols = sibling.protocols) :
    policy.chosen saved batch sighting = policy.chosen profiles other sibling := by
  rw [chosen, chosen, presence, same]

/-- With the same presence, sightings that offer the same are listed under the same keys. -/
lemma mem_under_congr
    (presence : Presence.inBatch batch saved name = Presence.inBatch other profiles name)
    {sighting sibling : Sighting} (hmem : sighting ∈ batch) (hother : sibling ∈ other)
    (hname : sighting.name = name) (hsame : sibling.name = name)
    (same : sighting.protocols = sibling.protocols) (key : EntryKey) :
    sighting ∈ (policy.entries saved batch).under key ↔
      sibling ∈ (policy.entries profiles other).under key := by
  have chosen : policy.chosen saved batch sighting = policy.chosen profiles other sibling := by
    apply chosen_eq_of_presence _ same
    rw [hname, hsame, presence]
  simp only [mem_under, hmem, hother, hname, hsame, chosen, true_and]

/-- With the same presence, what is offered under a key in one map is offered there in the other, if
the other batch has the same to offer. -/
lemma offers_under
    (presence : Presence.inBatch batch saved name = Presence.inBatch other profiles name)
    (offered : ∀ protocols, Sighting.Offers batch name protocols →
      Sighting.Offers other name protocols) {key : EntryKey} {protocols : ProtocolSet}
    (offers : Sighting.Offers ((policy.entries saved batch).under key) name protocols) :
    Sighting.Offers ((policy.entries profiles other).under key) name protocols := by
  obtain ⟨sighting, hkey, hname, rfl⟩ := offers
  obtain ⟨-, hmem, -⟩ := mem_under.1 hkey
  obtain ⟨sibling, hother, hsame, same⟩ := offered _ ⟨sighting, hmem, hname, rfl⟩
  refine ⟨sibling, ?_, hsame, same⟩
  exact (mem_under_congr presence hmem hother hname hsame same.symm key).1 hkey

/-- A key is in the map if something is offered under it. -/
lemma mem_entries_iff_offers {key : EntryKey} :
    key ∈ policy.entries saved batch ↔
      ∃ protocols, Sighting.Offers ((policy.entries saved batch).under key) key.name protocols := by
  rw [mem_entries_iff_under]
  constructor
  · rintro ⟨sighting, hkey⟩
    exact ⟨sighting.protocols, sighting, hkey, (mem_under.1 hkey).2.2.1, rfl⟩
  · rintro ⟨_, sighting, hkey, -⟩
    exact ⟨sighting, hkey⟩

/-- What belongs under the keys of a name is picked from the sightings of the name. -/
lemma map_observation_listing (batch : List Sighting) (key : EntryKey) :
    (policy.listing saved batch key).map (·.observation) =
      if key.name.isEmpty then []
      else ((Sighting.named batch key.name).map (·.observation)).filter fun observation =>
        (policy.chosen saved batch ⟨0, observation⟩).contains key.protocol := by
  rw [listing]
  split
  · rfl
  · rw [Sighting.map_observation_named, List.filter_filter, List.filter_map]
    exact congrArg _ (List.filter_congr fun _ _ => Bool.and_comm _ _)

/-- The observations under a key are those of the sightings that belong there. -/
lemma getElem?_observations (key : EntryKey) :
    (policy.entries saved batch).observations[key]? =
      if (policy.listing saved batch key).map (·.observation) = [] then none
      else some ((policy.listing saved batch key).map (·.observation)) := by
  rw [EntryMap.observations, Std.ExtTreeMap.getElem?_map, getElem?_entries]
  simp only [List.map_eq_nil_iff]
  split
  · rfl
  · rfl

/-- With the same presence, the same sightings of the name give the same lists. -/
lemma observations_eq_of_named {key : EntryKey}
    (presence : Presence.inBatch batch saved key.name = Presence.inBatch other profiles key.name)
    (same : (Sighting.named batch key.name).map (·.observation) =
      (Sighting.named other key.name).map (·.observation)) :
    (policy.entries saved batch).observations[key]? =
      (policy.entries profiles other).observations[key]? := by
  have listed : (policy.listing saved batch key).map (·.observation) =
      (policy.listing profiles other key).map (·.observation) := by
    rw [map_observation_listing, map_observation_listing, same]
    split
    · rfl
    · refine List.filter_congr fun observation hmap => ?_
      obtain ⟨sighting, hnamed, rfl⟩ := List.mem_map.1 hmap
      obtain ⟨-, hname⟩ := Sighting.mem_named.1 hnamed
      rw [chosen_eq_of_presence _ rfl]
      exact hname ▸ presence
  rw [getElem?_observations, getElem?_observations, listed]

/-- Networks do not interact. Take two batches, each with its own saved profiles, and a name under
whose keys for PSK, SAE, open networks and OWE both have profiles or both have none. If the same of
these four protocols are in range under the name, sightings of the name that offer the same are
listed under the same keys. If the same sets of protocols are offered under the name, in whatever
order, number and strength, the maps have the same keys of the name, with the same offered under
each. If the batches have the same observations of the name in the same order, the maps have the
same lists under its keys. -/
theorem networks_apart (policy : Policy) (batch other : List Sighting)
    (saved profiles : Option ProfileIndex) (name : String)
    (held : ∀ p ∈ [Protocol.psk, .sae, .unsecured, .owe],
      isSaved saved ⟨name, p⟩ = isSaved profiles ⟨name, p⟩) :
    let first := policy.entries saved batch
    let second := policy.entries profiles other
    ((∀ p ∈ [Protocol.psk, .sae, .owe, .unsecured],
        Sighting.inRange batch name p = Sighting.inRange other name p) →
      ∀ sighting ∈ batch, ∀ sibling ∈ other, sighting.name = name → sibling.name = name →
        sighting.protocols = sibling.protocols →
        ∀ key, sighting ∈ first.under key ↔ sibling ∈ second.under key) ∧
    ((∀ protocols, Sighting.Offers batch name protocols ↔ Sighting.Offers other name protocols) →
      ∀ key, key.name = name → (key ∈ first ↔ key ∈ second) ∧
        ∀ protocols, Sighting.Offers (first.under key) name protocols ↔
          Sighting.Offers (second.under key) name protocols) ∧
    ((Sighting.named batch name).map (·.observation) =
        (Sighting.named other name).map (·.observation) →
      ∀ key : EntryKey, key.name = name →
        first.observations[key]? = second.observations[key]?) := by
  intro first second
  refine ⟨fun range sighting hmem sibling hother hname hsame same key => ?_, ?_, ?_⟩
  · exact mem_under_congr (Presence.inBatch_eq range held) hmem hother hname hsame same key
  · rintro offered key rfl
    have presence : Presence.inBatch batch saved key.name =
        Presence.inBatch other profiles key.name :=
      Presence.inBatch_eq (fun p _ => Sighting.inRange_eq_of_offers offered p) held
    have same (protocols : ProtocolSet) : Sighting.Offers (first.under key) key.name protocols ↔
        Sighting.Offers (second.under key) key.name protocols :=
      ⟨offers_under presence fun _ => (offered _).1,
        offers_under presence.symm fun _ => (offered _).2⟩
    refine ⟨?_, same⟩
    rw [mem_entries_iff_offers, mem_entries_iff_offers]
    exact exists_congr same
  · rintro same key rfl
    exact observations_eq_of_named (Presence.inBatch_eq_of_named same held) same

/-- One network in two batches, with other beacons, signal levels, neighbours and profiles. -/
theorem networks_apart_home :
    let saved := some (ProfileIndex.ofList [⟨"Home", .psk, none, true, .auto⟩])
    let profiles := some (ProfileIndex.ofList
      [⟨"Home", .psk, some "vault:7", false, .metered⟩, ⟨"Home", .wep, none, true, .auto⟩,
        ⟨"Cafe", .unsecured, none, true, .auto⟩])
    let batch := Sighting.ofScan
      [⟨"Home", some "[WPA2-PSK-CCMP]", -40⟩, ⟨"Cafe", none, -50⟩,
        ⟨"Home", some "[RSN-SAE-CCMP]", -70⟩]
    let other := Sighting.ofScan
      [⟨"Home", some "[SAE]", -30⟩, ⟨"Home", some "[PSK]", -60⟩, ⟨"Home", some "[PSK]", -61⟩]
    let strong : Sighting := ⟨2, "Home", some "[RSN-SAE-CCMP]", -70⟩
    let near : Sighting := ⟨0, "Home", some "[SAE]", -30⟩
    let key : EntryKey := ⟨"Home", .psk⟩
    (∀ p ∈ [Protocol.psk, .sae, .unsecured, .owe],
      isSaved saved ⟨"Home", p⟩ = isSaved profiles ⟨"Home", p⟩) ∧
      strong ∈ ((⟨.single, .full⟩ : Policy).entries saved batch).under key ∧
      near ∈ ((⟨.single, .full⟩ : Policy).entries profiles other).under key ∧
      key ∈ (⟨.single, .full⟩ : Policy).entries profiles other := by
  intro saved profiles batch other strong near key
  have held : ∀ p ∈ [Protocol.psk, .sae, .unsecured, .owe],
      isSaved saved ⟨"Home", p⟩ = isSaved profiles ⟨"Home", p⟩ := by decide
  have hstrong : strong ∈ batch := .tail _ (.tail _ (.head _))
  have hkey : strong ∈ ((⟨.single, .full⟩ : Policy).entries saved batch).under key := by decide
  have hentry := mem_entries_iff_under.2 ⟨strong, hkey⟩
  have offered (protocols : ProtocolSet) :
      Sighting.Offers batch "Home" protocols ↔ Sighting.Offers other "Home" protocols := by
    constructor
    · rintro ⟨sighting, hmem, hname, rfl⟩
      revert sighting
      decide
    · rintro ⟨sighting, hmem, hname, rfl⟩
      revert sighting
      decide
  have apart := networks_apart ⟨.single, .full⟩ batch other saved profiles "Home" held
  refine ⟨held, hkey, ?_, ?_⟩
  · exact (apart.1 (by decide) strong hstrong near (.head _) rfl rfl (by decide) key).1 hkey
  · exact (apart.2.1 offered key rfl).1.1 hentry

end Policy

end WifiRoster
