import WifiRoster.Proofs.OneChoice

/-!
# Saved profiles in single selection

Two things are expected of saved profiles. A beacon that a saved profile fits is listed under a key
that has one: `Presence.lists_saved` shows it for one beacon, `saved_profile_wins` for the map. The
one exception is an open beacon of a name that goes by OWE.

And saving a profile for an offered entry moves nothing. An offered key is the favourite of its
family, a profile under it turns on the one bit that speaks for it, and so every family keeps its
favourite (`favourite_save`). `entries_saveUnder` is one such step, `entries_after_saving` any
number of them.
-/

namespace WifiRoster

/-- The saved profiles with one more under a key, which replaces an earlier one. -/
def saveUnder (saved : Option ProfileIndex) (key : EntryKey) (profile : Profile) :
    Option ProfileIndex :=
  some ((saved.getD ∅).insert key profile)

/-- The saved profiles after some more, one after the other. -/
def saveAll (saved : Option ProfileIndex) (saves : List (EntryKey × Profile)) :
    Option ProfileIndex :=
  saves.foldl (fun saved save => saveUnder saved save.1 save.2) saved

/-- The presence once a profile for a protocol has been saved; only four protocols have a bit. -/
def Presence.save (presence : Presence) : Protocol → Presence
  | .psk => { presence with pskSaved := true }
  | .sae => { presence with saeSaved := true }
  | .owe => { presence with oweSaved := true }
  | .unsecured => { presence with openSaved := true }
  | .wep | .eap | .suiteB => presence

section Credentials

variable {batch : List Sighting} {saved : Option ProfileIndex} {name : String}
  {usable : ProtocolSet}

/-- Where a name goes by OWE, a beacon that is only open is listed under nothing. -/
lemma Presence.not_lists_unsecured {presence : Presence} (favours : presence.favoursOwe = true)
    (p : Protocol) : ¬ presence.Lists (.single .unsecured) p := by
  intro lists
  obtain ⟨admits, goes⟩ := Presence.lists_iff.1 lists
  obtain ⟨q, hq, family⟩ := admits.exists_mem
  cases ProtocolSet.mem_single.1 hq
  -- the favourite is OWE, which such a beacon does not admit
  rw [← family, Protocol.family, Presence.favourite, if_pos favours] at goes
  cases goes
  exact absurd admits.1 (by decide)

/-- A beacon that a saved profile fits is listed under a protocol with a saved profile, unless it
is open and the name goes by OWE, for which a profile is saved too. -/
lemma Presence.lists_saved (covers : (Presence.inBatch batch saved name).Covers usable)
    (one : usable.OneFamily) {q : Protocol} (hq : q ∈ usable)
    (hsaved : isSaved saved ⟨name, q⟩ = true) (notOwe : usable ≠ .single .owe) :
    (∃ p, (Presence.inBatch batch saved name).Lists usable p ∧ isSaved saved ⟨name, p⟩ = true) ∨
      usable = .single .unsecured ∧ isSaved saved ⟨name, .owe⟩ = true ∧
        Sighting.inRange batch name .owe = true := by
  have plain (hpsk : isSaved saved ⟨name, .psk⟩ = true) :
      (Presence.inBatch batch saved name).favoursSae = false := by
    simp [Presence.favoursSae, Presence.inBatch, hpsk]
  cases q with
  | psk => exact .inl ⟨.psk, ⟨.inl hq, plain hsaved⟩, hsaved⟩
  | sae =>
    -- of two saved personal profiles PSK wins, even for a beacon with SAE alone
    cases hpsk : isSaved saved ⟨name, .psk⟩ with
    | true => exact .inl ⟨.psk, ⟨.inr hq, plain hpsk⟩, hpsk⟩
    | false =>
      have favours := Presence.favoursSae_iff.2 ⟨hpsk, .inl hsaved, covers.sae hq⟩
      exact .inl ⟨.sae, ⟨hq, favours⟩, hsaved⟩
  | owe =>
    have favours := Presence.favoursOwe_iff.2 ⟨.inl hsaved, covers.owe hq⟩
    have hopen : .unsecured ∈ usable :=
      Decidable.not_not.1 fun absent => notOwe (one.eq_single_owe hq absent)
    exact .inl ⟨.owe, ⟨⟨hq, hopen⟩, favours⟩, hsaved⟩
  | unsecured =>
    cases favours : (Presence.inBatch batch saved name).favoursOwe with
    | false => exact .inl ⟨.unsecured, ⟨hq, favours⟩, hsaved⟩
    | true =>
      -- against the open profile only an OWE profile can speak
      obtain ⟨speaks, range⟩ := Presence.favoursOwe_iff.1 favours
      have howe := speaks.resolve_right (ne_false_of_eq_true hsaved)
      by_cases hmem : .owe ∈ usable
      · exact .inl ⟨.owe, ⟨⟨hmem, hq⟩, favours⟩, howe⟩
      · exact .inr ⟨one.eq_single_unsecured hq hmem, howe, range⟩
  | wep => exact .inl ⟨.wep, hq, hsaved⟩
  | eap => exact .inl ⟨.eap, hq, hsaved⟩
  | suiteB => exact .inl ⟨.suiteB, hq, hsaved⟩

/-- A saved profile wins. In single selection a beacon that a saved profile fits, and that is not
one with OWE alone, is listed under exactly one key, and a profile is saved under that key. The only
other case is an open beacon of a name that has OWE in range and a profile for it: it is listed under
no key. -/
theorem Policy.saved_profile_wins (platform : Platform) (saved : Option ProfileIndex)
    (batch : List Sighting) {sighting : Sighting} (hmem : sighting ∈ batch)
    (hname : sighting.name ≠ "")
    (notOwe : platform.usable sighting.protocols ≠ .single .owe)
    (fits : ∃ q ∈ platform.usable sighting.protocols,
      isSaved saved ⟨sighting.name, q⟩ = true) :
    let entries := (⟨.single, platform⟩ : Policy).entries saved batch
    (∃ key, isSaved saved key = true ∧ ∀ other, sighting ∈ entries.under other ↔ other = key) ∨
      platform.usable sighting.protocols = .single .unsecured ∧
        isSaved saved ⟨sighting.name, .owe⟩ = true ∧
        (∃ sibling ∈ batch, sibling.name = sighting.name ∧ .owe ∈ sibling.protocols) ∧
        ∀ key, sighting ∉ entries.under key := by
  intro entries
  obtain ⟨q, hq, hsaved⟩ := fits
  have one := sighting.oneFamily_usable platform
  have covers := Presence.inBatch_covers_usable hmem saved platform
  obtain ⟨p, lists, hp⟩ | ⟨plain, howe, range⟩ :=
    Presence.lists_saved covers one hq hsaved notOwe
  · refine .inl ⟨⟨sighting.name, p⟩, hp, fun other => ?_⟩
    rw [Policy.mem_under_single]
    constructor
    · rintro ⟨-, -, same, listed⟩
      obtain ⟨name, r⟩ := other
      subst same
      rw [lists.unique listed one]
    · rintro rfl
      exact ⟨hname, hmem, rfl, lists⟩
  · refine .inr ⟨plain, howe, Sighting.inRange_iff.1 range, fun key hkey => ?_⟩
    obtain ⟨-, -, same, listed⟩ := Policy.mem_under_single.1 hkey
    rw [← same, plain] at listed
    have favours := Presence.favoursOwe_iff.2 ⟨.inl howe, range⟩
    exact Presence.not_lists_unsecured favours _ listed

/-- A beacon with SAE alone beside one with PSK alone, with a profile saved for SAE. -/
theorem Policy.saved_profile_wins_home :
    let saved := some (ProfileIndex.ofList [⟨"Home", .sae, none, true, .auto⟩])
    let batch := Sighting.ofScan
      [⟨"Home", some "[WPA2-PSK-CCMP]", -40⟩, ⟨"Home", some "[RSN-SAE-CCMP]", -70⟩]
    let strong : Sighting := ⟨1, "Home", some "[RSN-SAE-CCMP]", -70⟩
    strong ∈ batch ∧ strong.name ≠ "" ∧ Platform.full.usable strong.protocols ≠ .single .owe ∧
      (∃ q ∈ Platform.full.usable strong.protocols, isSaved saved ⟨strong.name, q⟩ = true) ∧
      ∃ key, isSaved saved key = true ∧
        ∀ other, strong ∈ ((⟨.single, .full⟩ : Policy).entries saved batch).under other ↔
          other = key := by
  intro saved batch strong
  have hmem : strong ∈ batch := .tail _ (.head _)
  have named : strong.name ≠ "" := by decide
  have notOwe : Platform.full.usable strong.protocols ≠ .single .owe := by decide
  have fits : ∃ q ∈ Platform.full.usable strong.protocols,
      isSaved saved ⟨strong.name, q⟩ = true := ⟨.sae, by decide, by decide⟩
  refine ⟨hmem, named, notOwe, fits, ?_⟩
  have wins := Policy.saved_profile_wins .full saved batch hmem named notOwe fits
  refine wins.resolve_right fun plain => ?_
  exact absurd plain.1 (by decide)

end Credentials

section Saving

variable {presence : Presence} {batch : List Sighting} {saved : Option ProfileIndex}

/-- What was saved under a key is saved. -/
@[simp] lemma isSaved_saveUnder {key : EntryKey} {profile : Profile} :
    isSaved (saveUnder saved key profile) key = true := by
  simp [saveUnder, isSaved]

/-- Saving under a key leaves the other keys as they are. -/
@[simp] lemma isSaved_saveUnder_of_ne {key other : EntryKey} {profile : Profile}
    (differ : key ≠ other) :
    isSaved (saveUnder saved key profile) other = isSaved saved other := by
  cases saved <;> simp [saveUnder, isSaved, Std.ExtTreeMap.contains_insert, differ]

/-- A profile under a key of the name turns on the bit of its protocol. -/
lemma Presence.inBatch_saveUnder {name : String} {p : Protocol} {profile : Profile} :
    Presence.inBatch batch (saveUnder saved ⟨name, p⟩ profile) name =
      (Presence.inBatch batch saved name).save p := by
  cases p <;> simp [Presence.inBatch, Presence.save]

/-- Other names are not concerned. -/
lemma Presence.inBatch_saveUnder_of_ne {key : EntryKey} {name : String} {profile : Profile}
    (differ : key.name ≠ name) :
    Presence.inBatch batch (saveUnder saved key profile) name =
      Presence.inBatch batch saved name := by
  have apart (p : Protocol) : key ≠ ⟨name, p⟩ := by
    rintro rfl
    exact differ rfl
  simp [Presence.inBatch, apart]

/-- The favourites are told by two preferences. -/
lemma Presence.favourite_congr {other : Presence} (hsae : other.favoursSae = presence.favoursSae)
    (howe : other.favoursOwe = presence.favoursOwe) (family : Protocol.Family) :
    other.favourite family = presence.favourite family := by
  cases family with
  | personal => rw [Presence.favourite, Presence.favourite, hsae]
  | unlocked => rw [Presence.favourite, Presence.favourite, howe]
  | _ => rfl

/-- Saving the favourite of a family changes no favourite. -/
lemma Presence.favourite_save {p : Protocol} (goes : presence.favourite p.family = p)
    (family : Protocol.Family) :
    (presence.save p).favourite family = presence.favourite family := by
  -- each bit speaks for its own protocol, and that is already preferred
  cases p with
  | psk =>
    have plain : presence.favoursSae = false := by
      simpa [Presence.favourite, Protocol.family] using goes
    apply Presence.favourite_congr
    · rw [plain]
      rfl
    · rfl
  | sae =>
    have favours : presence.favoursSae = true := by
      simpa [Presence.favourite, Protocol.family] using goes
    apply Presence.favourite_congr
    · simp_all [Presence.favoursSae, Presence.save]
    · rfl
  | owe =>
    have favours : presence.favoursOwe = true := by
      simpa [Presence.favourite, Protocol.family] using goes
    apply Presence.favourite_congr
    · rfl
    · simp_all [Presence.favoursOwe, Presence.save]
  | unsecured =>
    have plain : presence.favoursOwe = false := by
      simpa [Presence.favourite, Protocol.family] using goes
    apply Presence.favourite_congr
    · rfl
    · rw [plain]
      simp_all [Presence.favoursOwe, Presence.save]
  | wep => rfl
  | eap => rfl
  | suiteB => rfl

variable {platform : Platform}

/-- Saving a profile for an offered entry leaves the map as it is. -/
lemma Policy.entries_saveUnder {key : EntryKey}
    (offered : key ∈ (⟨.single, platform⟩ : Policy).entries saved batch) (profile : Profile) :
    (⟨.single, platform⟩ : Policy).entries (saveUnder saved key profile) batch =
      (⟨.single, platform⟩ : Policy).entries saved batch := by
  obtain ⟨-, _, -, -, lists⟩ := Policy.mem_entries_single.1 offered
  have goes := (Presence.lists_iff.1 lists).2
  refine Policy.entries_congr fun sighting hmem => Policy.chosen_congr hmem hmem fun p _ => ?_
  by_cases same : key.name = sighting.name
  · obtain ⟨name, q⟩ := key
    subst same
    rw [Presence.inBatch_saveUnder, Presence.favourite_save goes]
  · rw [Presence.inBatch_saveUnder_of_ne same]

/-- Saving what is offered moves nothing. In single selection any number of profiles, saved one
after the other under keys of the map, leave the map as it is, with the same sightings under the
same keys. -/
theorem Policy.entries_after_saving (platform : Platform) (saved : Option ProfileIndex)
    (batch : List Sighting) (saves : List (EntryKey × Profile))
    (offered : ∀ save ∈ saves, save.1 ∈ (⟨.single, platform⟩ : Policy).entries saved batch) :
    (⟨.single, platform⟩ : Policy).entries (saveAll saved saves) batch =
      (⟨.single, platform⟩ : Policy).entries saved batch := by
  induction saves generalizing saved with
  | nil => rfl
  | cons save rest ih =>
    have step := Policy.entries_saveUnder (offered save (.head _)) save.2
    rw [saveAll, List.foldl_cons, ← saveAll, ih, step]
    intro later hlater
    rw [step]
    exact offered later (.tail _ hlater)

/-- Two offered entries are saved: PSK with an SAE beacon beside, and OWE with an open side. -/
theorem Policy.entries_after_saving_home :
    let batch := Sighting.ofScan
      [⟨"Home", some "[WPA2-PSK-CCMP]", -40⟩, ⟨"Home", some "[RSN-SAE-CCMP]", -70⟩,
        ⟨"Cafe", some "[OWE_TRANSITION]", -60⟩]
    let saves : List (EntryKey × Profile) :=
      [(⟨"Home", .psk⟩, ⟨"Home", .psk, none, true, .auto⟩),
        (⟨"Cafe", .owe⟩, ⟨"Cafe", .owe, none, false, .metered⟩)]
    (∀ save ∈ saves, save.1 ∈ (⟨.single, .full⟩ : Policy).entries none batch) ∧
      (⟨.single, .full⟩ : Policy).entries (saveAll none saves) batch =
        (⟨.single, .full⟩ : Policy).entries none batch := by
  intro batch saves
  have offered : ∀ save ∈ saves, save.1 ∈ (⟨.single, .full⟩ : Policy).entries none batch := by
    decide
  exact ⟨offered, Policy.entries_after_saving .full none batch saves offered⟩

end Saving

end WifiRoster
