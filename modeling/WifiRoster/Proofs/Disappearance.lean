import WifiRoster.Proofs.OneChoice

/-!
# When a network disappears

In single selection a network can be in range and yet be listed under no key: some of its beacons
are coalesced, others are unusable, and OWE alone is never listed. `unlisted_iff` says what keeps
one beacon off the map, protocol by protocol, and `no_key_iff` lifts it to all beacons of a name.
The main statement, `no_key_iff_vanishes`, spells the condition out in what the beacons offer, what
the platform supports and what is saved.

A beacon is coalesced in favour of a sibling. `coalesced_listed_iff` tells when some key of the name
is there to stand in for it: always, unless the beacon is open and the other beacons of the name
are open too or have OWE alone. `coalesced_into_nothing` shows such a network.
-/

namespace WifiRoster

/-- Some beacon of the name offers exactly these protocols. -/
def Sighting.Offers (batch : List Sighting) (name : String) (protocols : ProtocolSet) : Prop :=
  ∃ sighting ∈ batch, sighting.name = name ∧ sighting.protocols = protocols

instance (batch : List Sighting) (name : String) (protocols : ProtocolSet) :
    Decidable (Sighting.Offers batch name protocols) :=
  inferInstanceAs (Decidable (∃ sighting ∈ batch, _ ∧ _))

/-- What keeps a beacon from being listed, for each of the protocols that it offers. -/
def Presence.Blocks (presence : Presence) (platform : Platform) (protocols : ProtocolSet) :
    Protocol → Prop
  | .wep => False
  | .eap => False
  | .suiteB => platform.suiteB = false
  | .sae => platform.sae = false
  | .psk => presence.favoursSae = true
  | .owe => .unsecured ∈ protocols → platform.enhancedOpen = false
  | .unsecured => presence.favoursOwe = true

/-- The conditions under which no beacon of a name is listed. -/
structure Vanishes (platform : Platform) (saved : Option ProfileIndex) (batch : List Sighting)
    (name : String) : Prop where
  wep : ¬ Sighting.Offers batch name (.single .wep)
  eap : ¬ Sighting.Offers batch name (.single .eap)
  suiteB : Sighting.Offers batch name (.single .suiteB) → platform.suiteB = false
  sae : Sighting.Offers batch name (.single .sae) → platform.sae = false
  pskSae : Sighting.Offers batch name (.ofList [.psk, .sae]) →
    platform.sae = false ∧
      isSaved saved ⟨name, .psk⟩ = false ∧ isSaved saved ⟨name, .sae⟩ = true
  psk : Sighting.Offers batch name (.single .psk) →
    isSaved saved ⟨name, .psk⟩ = false ∧ isSaved saved ⟨name, .sae⟩ = true ∧
      (Sighting.Offers batch name (.single .sae) ∨
        Sighting.Offers batch name (.ofList [.psk, .sae]))
  oweTransition : Sighting.Offers batch name (.ofList [.unsecured, .owe]) →
    platform.enhancedOpen = false ∧
      (isSaved saved ⟨name, .owe⟩ = true ∨ isSaved saved ⟨name, .unsecured⟩ = false)
  unsecured : Sighting.Offers batch name (.single .unsecured) →
    (Sighting.Offers batch name (.single .owe) ∨
      Sighting.Offers batch name (.ofList [.unsecured, .owe])) ∧
    (isSaved saved ⟨name, .owe⟩ = true ∨ isSaved saved ⟨name, .unsecured⟩ = false)

section OneBeacon

variable {presence : Presence} {platform : Platform} {protocols : ProtocolSet}

/-- A beacon with usable SAE is listed, under one personal protocol or the other. -/
lemma Presence.listed_of_sae (hsae : .sae ∈ platform.usable protocols) :
    ∃ p, presence.Lists (platform.usable protocols) p := by
  cases favours : presence.favoursSae with
  | true => exact ⟨.sae, hsae, favours⟩
  | false => exact ⟨.psk, .inr hsae, favours⟩

/-- An open beacon with usable OWE is listed, under one unlocked protocol or the other. -/
lemma Presence.listed_of_oweTransition (hopen : .unsecured ∈ platform.usable protocols)
    (howe : .owe ∈ platform.usable protocols) :
    ∃ p, presence.Lists (platform.usable protocols) p := by
  cases favours : presence.favoursOwe with
  | true => exact ⟨.owe, ⟨howe, hopen⟩, favours⟩
  | false => exact ⟨.unsecured, hopen, favours⟩

/-- A beacon is listed under nothing exactly when each protocol that it offers is blocked. -/
lemma Presence.unlisted_iff :
    (∀ p, ¬ presence.Lists (platform.usable protocols) p) ↔
      ∀ p ∈ protocols, presence.Blocks platform protocols p := by
  constructor
  · intro unlisted p hp
    have usable {q : Protocol} (hq : q ∈ protocols) (supported : platform.supports q = true) :
        q ∈ platform.usable protocols := Platform.mem_usable_iff.2 ⟨hq, supported⟩
    cases p with
    | wep => exact unlisted .wep (usable hp rfl)
    | eap => exact unlisted .eap (usable hp rfl)
    | suiteB =>
      exact Bool.eq_false_iff.2 fun supported => unlisted .suiteB (usable hp supported)
    | sae =>
      refine Bool.eq_false_iff.2 fun supported => ?_
      obtain ⟨q, lists⟩ := Presence.listed_of_sae (usable hp supported)
      exact unlisted q lists
    | psk =>
      refine eq_true_of_ne_false fun plain => ?_
      exact unlisted .psk ⟨.inl (usable hp rfl), plain⟩
    | owe =>
      -- without an open side the beacon has OWE alone, and is blocked anyway
      intro hopen
      refine Bool.eq_false_iff.2 fun supported => ?_
      obtain ⟨q, lists⟩ :=
        Presence.listed_of_oweTransition (usable hopen rfl) (usable hp supported)
      exact unlisted q lists
    | unsecured =>
      refine eq_true_of_ne_false fun plain => ?_
      exact unlisted .unsecured ⟨usable hp rfl, plain⟩
  · intro blocked p lists
    have offered {q : Protocol} (hq : q ∈ platform.usable protocols) :
        q ∈ protocols ∧ platform.supports q = true := Platform.mem_usable_iff.1 hq
    cases p with
    | wep => exact blocked .wep (offered lists).1
    | eap => exact blocked .eap (offered lists).1
    | suiteB =>
      obtain ⟨hmem, supported⟩ := offered lists
      exact ne_true_of_eq_false (blocked .suiteB hmem) supported
    | sae =>
      obtain ⟨hmem, supported⟩ := offered lists.1
      exact ne_true_of_eq_false (blocked .sae hmem) supported
    | psk =>
      obtain ⟨hpsk | hsae, plain⟩ := lists
      · exact ne_true_of_eq_false plain (blocked .psk (offered hpsk).1)
      · -- a beacon with SAE alone can be listed under PSK, but not without usable SAE
        obtain ⟨hmem, supported⟩ := offered hsae
        exact ne_true_of_eq_false (blocked .sae hmem) supported
    | owe =>
      obtain ⟨⟨howe, hopen⟩, -⟩ := lists
      obtain ⟨hmem, supported⟩ := offered howe
      exact ne_true_of_eq_false (blocked .owe hmem (offered hopen).1) supported
    | unsecured =>
      obtain ⟨hopen, plain⟩ := lists
      exact ne_true_of_eq_false plain (blocked .unsecured (offered hopen).1)

/-- Where a name goes by OWE, open beacons and beacons with OWE alone are blocked. -/
lemma Presence.blocks_unlocked (favours : presence.favoursOwe = true)
    (unlocked : protocols = .single .unsecured ∨ protocols = .single .owe) :
    ∀ p ∈ protocols, presence.Blocks platform protocols p := by
  intro p hp
  obtain rfl | rfl := unlocked
  · obtain rfl := ProtocolSet.mem_single.1 hp
    exact favours
  · obtain rfl := ProtocolSet.mem_single.1 hp
    exact fun hopen => absurd hopen (by decide)

end OneBeacon

section Network

variable {platform : Platform} {saved : Option ProfileIndex} {batch : List Sighting}
  {name : String}

/-- A beacon puts what it offers in range. -/
lemma Sighting.Offers.inRange {protocols : ProtocolSet} {p : Protocol}
    (offers : Sighting.Offers batch name protocols) (hp : p ∈ protocols) :
    Sighting.inRange batch name p = true := by
  obtain ⟨sighting, hmem, hname, rfl⟩ := offers
  exact Sighting.inRange_iff.2 ⟨sighting, hmem, hname, hp⟩

/-- Beacons offer nothing but the nine sets. -/
lemma Sighting.Offers.offered {protocols : ProtocolSet}
    (offers : Sighting.Offers batch name protocols) : Offered protocols := by
  obtain ⟨sighting, -, -, rfl⟩ := offers
  exact sighting.offered

/-- A protocol that is in range is in one of the sets that beacons offer. -/
lemma Sighting.offers_of_inRange {p : Protocol} (range : Sighting.inRange batch name p = true) :
    ∃ protocols, Sighting.Offers batch name protocols ∧ p ∈ protocols := by
  obtain ⟨sighting, hmem, hname, hp⟩ := Sighting.inRange_iff.1 range
  exact ⟨sighting.protocols, ⟨sighting, hmem, hname, rfl⟩, hp⟩

/-- SAE is in range through beacons that have it alone or beside PSK. -/
lemma Sighting.inRange_sae_iff :
    Sighting.inRange batch name .sae = true ↔
      Sighting.Offers batch name (.single .sae) ∨
        Sighting.Offers batch name (.ofList [.psk, .sae]) := by
  constructor
  · intro range
    obtain ⟨protocols, offers, hsae⟩ := Sighting.offers_of_inRange range
    obtain rfl | rfl := offers.offered.eq_of_sae hsae
    · exact .inl offers
    · exact .inr offers
  · rintro (offers | offers)
    · exact offers.inRange (by decide)
    · exact offers.inRange (by decide)

/-- OWE is in range through beacons that have it alone or are open beside. -/
lemma Sighting.inRange_owe_iff :
    Sighting.inRange batch name .owe = true ↔
      Sighting.Offers batch name (.single .owe) ∨
        Sighting.Offers batch name (.ofList [.unsecured, .owe]) := by
  constructor
  · intro range
    obtain ⟨protocols, offers, howe⟩ := Sighting.offers_of_inRange range
    obtain rfl | rfl := offers.offered.eq_of_owe howe
    · exact .inl offers
    · exact .inr offers
  · rintro (offers | offers)
    · exact offers.inRange (by decide)
    · exact offers.inRange (by decide)

/-- With PSK in range a name goes by SAE if SAE is saved, PSK is not, and SAE is in range. -/
lemma Presence.favoursSae_inBatch (hpsk : Sighting.inRange batch name .psk = true) :
    (Presence.inBatch batch saved name).favoursSae = true ↔
      isSaved saved ⟨name, .psk⟩ = false ∧ isSaved saved ⟨name, .sae⟩ = true ∧
        Sighting.inRange batch name .sae = true := by
  simp [Presence.favoursSae_iff, hpsk]

/-- A name has no key exactly when every protocol of every beacon of the name is blocked. -/
lemma Policy.no_key_iff (hname : name ≠ "") :
    (∀ key ∈ (⟨.single, platform⟩ : Policy).entries saved batch, key.name ≠ name) ↔
      ∀ protocols, Sighting.Offers batch name protocols → ∀ p ∈ protocols,
        (Presence.inBatch batch saved name).Blocks platform protocols p := by
  constructor
  · rintro none _ ⟨sighting, hmem, hsame, rfl⟩
    refine Presence.unlisted_iff.1 fun p lists => ?_
    exact none ⟨name, p⟩ (mem_entries_single.2 ⟨hname, sighting, hmem, hsame, lists⟩) rfl
  · rintro blocked key hkey rfl
    obtain ⟨-, sighting, hmem, hsame, lists⟩ := mem_entries_single.1 hkey
    exact Presence.unlisted_iff.2 (blocked _ ⟨sighting, hmem, hsame, rfl⟩) _ lists

/-- Where every protocol is blocked, the conditions are met. -/
lemma Vanishes.of_blocked
    (blocked : ∀ protocols, Sighting.Offers batch name protocols → ∀ p ∈ protocols,
      (Presence.inBatch batch saved name).Blocks platform protocols p) :
    Vanishes platform saved batch name where
  wep offers := blocked _ offers .wep (by decide)
  eap offers := blocked _ offers .eap (by decide)
  suiteB offers := blocked _ offers .suiteB (by decide)
  sae offers := blocked _ offers .sae (by decide)
  pskSae offers := by
    have favours := blocked _ offers .psk (by decide)
    obtain ⟨hpsk, hsae, -⟩ :=
      (Presence.favoursSae_inBatch (offers.inRange (by decide))).1 favours
    exact ⟨blocked _ offers .sae (by decide), hpsk, hsae⟩
  psk offers := by
    have favours := blocked _ offers .psk (by decide)
    obtain ⟨hpsk, hsae, range⟩ :=
      (Presence.favoursSae_inBatch (offers.inRange (by decide))).1 favours
    exact ⟨hpsk, hsae, Sighting.inRange_sae_iff.1 range⟩
  oweTransition offers := by
    obtain ⟨hsaved, -⟩ := Presence.favoursOwe_iff.1 (blocked _ offers .unsecured (by decide))
    exact ⟨blocked _ offers .owe (by decide) (by decide), hsaved⟩
  unsecured offers := by
    obtain ⟨hsaved, range⟩ :=
      Presence.favoursOwe_iff.1 (blocked _ offers .unsecured (by decide))
    exact ⟨Sighting.inRange_owe_iff.1 range, hsaved⟩

/-- Where the conditions are met, every protocol is blocked. -/
lemma Vanishes.blocks (vanishes : Vanishes platform saved batch name) {protocols : ProtocolSet}
    (offers : Sighting.Offers batch name protocols) :
    ∀ p ∈ protocols, (Presence.inBatch batch saved name).Blocks platform protocols p := by
  intro p hp
  cases offers.offered with
  | pskSae =>
    obtain ⟨gate, hpsk, hsae⟩ := vanishes.pskSae offers
    obtain rfl | rfl := ProtocolSet.mem_pair.1 hp
    · -- the beacon itself is what brings SAE into range, whether or not it is usable
      have range := offers.inRange (p := .sae) (by decide)
      exact (Presence.favoursSae_inBatch (offers.inRange (by decide))).2 ⟨hpsk, hsae, range⟩
    · exact gate
  | oweTransition =>
    obtain ⟨gate, hsaved⟩ := vanishes.oweTransition offers
    obtain rfl | rfl := ProtocolSet.mem_pair.1 hp
    · have range := offers.inRange (p := .owe) (by decide)
      exact Presence.favoursOwe_iff.2 ⟨hsaved, range⟩
    · exact fun _ => gate
  | owe =>
    -- no condition speaks of OWE alone, because it is never listed
    obtain rfl := ProtocolSet.mem_single.1 hp
    exact fun hopen => absurd hopen (by decide)
  | wep => exact absurd offers vanishes.wep
  | sae =>
    obtain rfl := ProtocolSet.mem_single.1 hp
    exact vanishes.sae offers
  | psk =>
    obtain rfl := ProtocolSet.mem_single.1 hp
    obtain ⟨hpsk, hsae, siblings⟩ := vanishes.psk offers
    have range := Sighting.inRange_sae_iff.2 siblings
    exact (Presence.favoursSae_inBatch (offers.inRange hp)).2 ⟨hpsk, hsae, range⟩
  | suiteB =>
    obtain rfl := ProtocolSet.mem_single.1 hp
    exact vanishes.suiteB offers
  | eap => exact absurd offers vanishes.eap
  | unsecured =>
    obtain rfl := ProtocolSet.mem_single.1 hp
    obtain ⟨siblings, hsaved⟩ := vanishes.unsecured offers
    have range := Sighting.inRange_owe_iff.2 siblings
    exact Presence.favoursOwe_iff.2 ⟨hsaved, range⟩

/-- On a platform that supports everything, only open beacons and OWE alone can all be blocked. -/
lemma Sighting.Offers.unlocked_of_blocked
    (blocked : ∀ protocols, Sighting.Offers batch name protocols → ∀ p ∈ protocols,
      (Presence.inBatch batch saved name).Blocks .full protocols p)
    {protocols : ProtocolSet} (offers : Sighting.Offers batch name protocols) :
    protocols = .single .owe ∨ protocols = .single .unsecured := by
  have no_sae : ¬ Sighting.inRange batch name .sae = true := by
    intro range
    obtain ⟨_, offersSae, hsae⟩ := Sighting.offers_of_inRange range
    cases blocked _ offersSae .sae hsae
  cases offers.offered with
  | owe => exact .inl rfl
  | unsecured => exact .inr rfl
  | pskSae => exact absurd (offers.inRange (by decide)) no_sae
  | sae => exact absurd (offers.inRange (by decide)) no_sae
  | psk =>
    -- PSK gives way to SAE only, and SAE would be listed
    have favours := blocked _ offers .psk (by decide)
    exact absurd ((Presence.favoursSae_inBatch (offers.inRange (by decide))).1 favours).2.2 no_sae
  | oweTransition => cases blocked _ offers .owe (by decide) (by decide)
  | suiteB => cases blocked _ offers .suiteB (by decide)
  | wep => exact (blocked _ offers .wep (by decide)).elim
  | eap => exact (blocked _ offers .eap (by decide)).elim

/-- On such a platform a blocked network has a beacon with OWE alone. -/
lemma Sighting.Offers.owe_of_blocked
    (blocked : ∀ protocols, Sighting.Offers batch name protocols → ∀ p ∈ protocols,
      (Presence.inBatch batch saved name).Blocks .full protocols p)
    {protocols : ProtocolSet} (offers : Sighting.Offers batch name protocols) :
    Sighting.Offers batch name (.single .owe) := by
  obtain rfl | rfl := offers.unlocked_of_blocked blocked
  · exact offers
  · -- an open beacon gives way to OWE only
    have favours := blocked _ offers .unsecured (by decide)
    obtain ⟨other, offersOwe, howe⟩ :=
      Sighting.offers_of_inRange (Presence.favoursOwe_iff.1 favours).2
    obtain rfl | rfl := offersOwe.unlocked_of_blocked blocked
    · exact offersOwe
    · exact absurd howe (by decide)

/-- When a network disappears. No key of a map in single selection has the name exactly when the
conditions of `Vanishes` are met. On a platform that supports everything this leaves networks of
beacons with OWE alone, with or without open ones beside them. -/
theorem Policy.no_key_iff_vanishes (platform : Platform) (saved : Option ProfileIndex)
    (batch : List Sighting) {name : String} (hname : name ≠ "") :
    ((∀ key ∈ (⟨.single, platform⟩ : Policy).entries saved batch, key.name ≠ name) ↔
      Vanishes platform saved batch name) ∧
    (platform = .full →
      (∀ key ∈ (⟨.single, platform⟩ : Policy).entries saved batch, key.name ≠ name) →
      ∀ sighting ∈ batch, sighting.name = name →
        (sighting.protocols = .single .owe ∨ sighting.protocols = .single .unsecured) ∧
        Sighting.Offers batch name (.single .owe)) := by
  refine ⟨⟨fun none => ?_, fun vanishes => ?_⟩, ?_⟩
  · exact .of_blocked ((no_key_iff hname).1 none)
  · exact (no_key_iff hname).2 fun _ offers => vanishes.blocks offers
  · rintro rfl none sighting hmem hsame
    have blocked := (no_key_iff hname).1 none
    have offers : Sighting.Offers batch name sighting.protocols := ⟨sighting, hmem, hsame, rfl⟩
    exact ⟨offers.unlocked_of_blocked blocked, offers.owe_of_blocked blocked⟩

/-- An open beacon beside one with OWE alone, with nothing saved. -/
theorem Policy.no_key_iff_vanishes_cafe :
    let batch := Sighting.ofScan
      [⟨"Cafe", some "[ESS]", -50⟩, ⟨"Cafe", some "[RSN-OWE-CCMP]", -55⟩]
    "Cafe" ≠ "" ∧ Vanishes .full none batch "Cafe" ∧
      (∀ key ∈ (⟨.single, .full⟩ : Policy).entries none batch, key.name ≠ "Cafe") ∧
      Sighting.Offers batch "Cafe" (.single .owe) := by
  intro batch
  have named : "Cafe" ≠ "" := by decide
  have vanishes : Vanishes .full none batch "Cafe" := by
    constructor <;> decide
  have iff := Policy.no_key_iff_vanishes .full none batch named
  have none := iff.1.2 vanishes
  have first : ⟨0, "Cafe", some "[ESS]", -50⟩ ∈ batch := .head _
  exact ⟨named, vanishes, none, (iff.2 rfl none _ first rfl).2⟩

/-- When a coalesced beacon is stood in for. On a platform that supports everything a beacon that
the table coalesces has a key of its name in the map exactly when it is not plainly open, or some
beacon of the name is neither plainly open nor has OWE alone. -/
theorem Policy.coalesced_listed_iff (saved : Option ProfileIndex) (batch : List Sighting)
    {sighting : Sighting} (hmem : sighting ∈ batch) (hname : sighting.name ≠ "")
    (coalesced :
      (singleSelection
        (.ofGroup sighting.name (Sighting.named batch sighting.name) saved)
        (Platform.full.usable sighting.protocols)).2 = .coalesce) :
    (∃ key ∈ (⟨.single, .full⟩ : Policy).entries saved batch, key.name = sighting.name) ↔
      sighting.protocols ≠ .single .unsecured ∨
        ∃ sibling ∈ batch, sibling.name = sighting.name ∧
          sibling.protocols ≠ .single .unsecured ∧ sibling.protocols ≠ .single .owe := by
  rw [Presence.ofGroup_named, Platform.usable_full,
    singleSelection_eq_coalesce_iff (Presence.inBatch_covers hmem saved)
      sighting.offered.oneFamily] at coalesced
  have offers : Sighting.Offers batch sighting.name sighting.protocols :=
    ⟨sighting, hmem, rfl, rfl⟩
  constructor
  · rintro ⟨key, hkey, hsame⟩
    refine Decidable.or_iff_not_imp_left.2 fun plain => ?_
    have favours : (Presence.inBatch batch saved sighting.name).favoursOwe = true := by
      simpa [Decidable.not_not.1 plain] using coalesced
    refine Classical.byContradiction fun alone => ?_
    -- all beacons of the name are then blocked, against the key that is there
    refine (no_key_iff hname).2 ?_ key hkey hsame
    rintro _ ⟨sibling, hsibling, hname', rfl⟩
    refine Presence.blocks_unlocked favours ?_
    refine Decidable.or_iff_not_imp_left.2 fun hopen => Decidable.not_not.1 fun howe => ?_
    exact alone ⟨sibling, hsibling, hname', hopen, howe⟩
  · intro standIn
    refine Classical.byContradiction fun absent => ?_
    have none : ∀ key ∈ (⟨.single, .full⟩ : Policy).entries saved batch,
        key.name ≠ sighting.name := fun key hkey hsame => absent ⟨key, hkey, hsame⟩
    have blocked := (no_key_iff hname).1 none
    obtain notOpen | ⟨sibling, hsibling, hsame, hopen, howe⟩ := standIn
    · have howe := (offers.unlocked_of_blocked blocked).resolve_right notOpen
      -- a beacon with OWE alone is coalesced in favour of an open one, which is listed then
      obtain ⟨range, plain⟩ :
          (Presence.inBatch batch saved sighting.name).openInRange = true ∧
            (Presence.inBatch batch saved sighting.name).favoursOwe = false := by
        simpa [howe] using coalesced
      obtain ⟨_, offersOpen, hopen⟩ := Sighting.offers_of_inRange range
      exact ne_true_of_eq_false plain (blocked _ offersOpen .unsecured hopen)
    · obtain h | h := Sighting.Offers.unlocked_of_blocked blocked ⟨sibling, hsibling, hsame, rfl⟩
      · exact howe h
      · exact hopen h

/-- An open beacon beside an open one with OWE, with nothing saved. -/
theorem Policy.coalesced_listed_iff_cafe :
    let batch := Sighting.ofScan
      [⟨"Cafe", some "[ESS]", -50⟩, ⟨"Cafe", some "[RSN-OWE_TRANSITION-CCMP]", -55⟩]
    let plain : Sighting := ⟨0, "Cafe", some "[ESS]", -50⟩
    plain ∈ batch ∧ plain.name ≠ "" ∧
      (singleSelection (.ofGroup plain.name (Sighting.named batch plain.name) none)
        (Platform.full.usable plain.protocols)).2 = .coalesce ∧
      ∃ key ∈ (⟨.single, .full⟩ : Policy).entries none batch, key.name = plain.name := by
  intro batch plain
  have hmem : plain ∈ batch := .head _
  have named : plain.name ≠ "" := by decide
  have coalesced : (singleSelection
      (.ofGroup plain.name (Sighting.named batch plain.name) none)
      (Platform.full.usable plain.protocols)).2 = .coalesce := by
    decide
  refine ⟨hmem, named, coalesced, ?_⟩
  refine (Policy.coalesced_listed_iff none batch hmem named coalesced).2 (.inr ?_)
  exact ⟨⟨1, "Cafe", some "[RSN-OWE_TRANSITION-CCMP]", -55⟩, .tail _ (.head _), by decide⟩

/-- An open beacon is coalesced in favour of one with OWE alone, which is not listed either. -/
theorem Policy.coalesced_into_nothing :
    let batch := Sighting.ofScan
      [⟨"Cafe", some "[ESS]", -50⟩, ⟨"Cafe", some "[RSN-OWE-CCMP]", -55⟩]
    let plain : Sighting := ⟨0, "Cafe", some "[ESS]", -50⟩
    plain ∈ batch ∧ plain.name ≠ "" ∧
      (singleSelection (.ofGroup plain.name (Sighting.named batch plain.name) none)
        (Platform.full.usable plain.protocols)).2 = .coalesce ∧
      ¬ ∃ key ∈ (⟨.single, .full⟩ : Policy).entries none batch, key.name = plain.name := by
  intro batch plain
  have named : plain.name ≠ "" := by decide
  refine ⟨.head _, named, by decide, ?_⟩
  rintro ⟨key, hkey, hsame⟩
  refine (no_key_iff named).2 ?_ key hkey hsame
  rintro _ ⟨sighting, hmem, -, rfl⟩
  refine Presence.blocks_unlocked (by decide) ?_
  revert sighting
  decide

end Network

end WifiRoster
