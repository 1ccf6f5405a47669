import WifiRoster.EntryKey

/-!
# Saved profiles

A saved profile holds the user's choices for one network. Profiles are looked up by the key of the
entry that they belong to; of several profiles with one key, the last counts.
-/

namespace WifiRoster

/-- What the user said about the costs of a network. -/
inductive Metering where
  /-- Nothing was said. -/
  | auto
  | metered
  | unmetered
deriving DecidableEq, Repr

/-- A saved profile. -/
structure Profile where
  name : String
  protocol : Protocol
  /-- A handle into the store of credentials, never looked into. -/
  credential : Option String
  /-- Whether the network is joined without asking. -/
  autoJoin : Bool
  metering : Metering
deriving DecidableEq, Repr

/-- The key of the entry that the profile belongs to. -/
def Profile.key (profile : Profile) : EntryKey := ⟨profile.name, profile.protocol⟩

/-- Saved profiles by the keys of their entries. -/
abbrev ProfileIndex := Std.ExtTreeMap EntryKey Profile

namespace ProfileIndex

/-- The index with one more profile, which replaces an earlier one with its key. -/
def save (index : ProfileIndex) (profile : Profile) : ProfileIndex :=
  index.insert profile.key profile

/-- The index of a list of profiles; those without a network name are left out. -/
def ofList (profiles : List Profile) : ProfileIndex :=
  (profiles.filter (!·.name.isEmpty)).foldl save ∅

end ProfileIndex

/-- Whether a profile is saved under a key; without an index nothing is saved. -/
def isSaved (index : Option ProfileIndex) (key : EntryKey) : Bool :=
  index.any (·.contains key)

end WifiRoster
