import WifiRoster.Attribution

/-!
# Entries

An entry is what a person is shown of one key: the strongest of the sightings listed under the
key, their number, and the saved profile, if there is one. Entries are listed in the order of the
text forms of their keys, and described by up to four short texts.
-/

namespace WifiRoster

/-- One selectable network. -/
structure Entry where
  key : EntryKey
  profile : Option Profile
  /-- The first of the strongest sightings. -/
  best : Option Sighting
  /-- The number of sightings. -/
  count : Nat
deriving DecidableEq, Repr

/-- The words of the descriptions in some language. -/
structure Labels where
  autoConnectOff : String
  metered : String
  unmetered : String
deriving DecidableEq, Repr

/-- The words in English. -/
def Labels.english : Labels where
  autoConnectOff := "Automatic connection off"
  metered := "Metered"
  unmetered := "Unmetered"

namespace Entry

/-- The entry of a key with the sightings listed under it. -/
def ofSightings (key : EntryKey) (sightings : List Sighting) (profile : Option Profile) :
    Entry where
  key := key
  profile := profile
  best := Sighting.strongest? sightings
  count := sightings.length

/-- Whether there is a saved profile. -/
def isSaved (entry : Entry) : Bool := entry.profile.isSome

/-- Whether one entry may stand before another: its key's text form is not the greater one. -/
def precedes (a b : Entry) : Bool := decide (a.key.text ≤ b.key.text)

/-- The entries of listed sightings, whatever the order in which the keys come. -/
def ofListing (listing : List (EntryKey × List Sighting)) (saved : Option ProfileIndex) :
    List Entry :=
  (listing.map fun (key, sightings) =>
    ofSightings key sightings (saved.bind (·[key]?))).mergeSort precedes

/-- The entries of a map. -/
def ofMap (entries : EntryMap) (saved : Option ProfileIndex) : List Entry :=
  ofListing entries.toList saved

/-- Says that the network is not joined automatically, if it is saved so. -/
def autoConnectDescription (labels : Labels) (entry : Entry) : String :=
  match entry.profile with
  | some profile => if profile.autoJoin then "" else labels.autoConnectOff
  | none => ""

/-- Says what the user said about costs, if anything. -/
def meteredDescription (labels : Labels) (entry : Entry) : String :=
  match entry.profile.map Profile.metering with
  | some .metered => labels.metered
  | some .unmetered => labels.unmetered
  | some .auto | none => ""

/-- Says nothing, as nothing is known about the speed of a network. -/
def speedDescription (_labels : Labels) (_entry : Entry) : String := ""

/-- The best sighting with everything that its beacon said. -/
def sightingDetails (sighting : Sighting) : String :=
  let descriptor := match sighting.observation.descriptor with
    | some descriptor => if descriptor.isEmpty then [] else [descriptor]
    | none => []
  "\x7b" ++ ", ".intercalate ([sighting.name, toString sighting.level.toInt] ++ descriptor) ++
    "\x7d"

/-- The details of an entry for diagnosis, only if they are asked for. -/
def verboseDescription (entry : Entry) (verbose : Bool) : String :=
  if verbose then
    let best := entry.best.toList.map sightingDetails
    let count := if entry.count = 0 then [] else ["[" ++ toString entry.count ++ " scans]"]
    " ".intercalate (best ++ count)
  else ""

end Entry

end WifiRoster
