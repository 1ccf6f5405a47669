import WifiRoster.Observation
import WifiRoster.Policy
import WifiRoster.Profile
import WifiRoster.Selection

/-!
# Verdicts

All sightings of one network name are judged together, because what is in range and saved under a
name decides about every beacon of the name. A verdict keeps the sighting with what was decided
about it, and tells under which keys it is listed.
-/

namespace WifiRoster

/-- What is in range among the members of a group, and saved under its name. -/
def Presence.ofGroup (name : String) (members : List Sighting) (saved : Option ProfileIndex) :
    Presence :=
  members.foldl (fun presence sighting => presence.observe sighting.protocols)
    { pskInRange := false
      saeInRange := false
      oweInRange := false
      openInRange := false
      pskSaved := isSaved saved ⟨name, .psk⟩
      saeSaved := isSaved saved ⟨name, .sae⟩
      openSaved := isSaved saved ⟨name, .unsecured⟩
      oweSaved := isSaved saved ⟨name, .owe⟩ }

/-- What was decided about a sighting. -/
inductive Outcome where
  /-- It is listed under these protocols, possibly none. -/
  | assigned (protocols : ProtocolSet)
  /-- The rule with this label left it out in favour of a sibling. -/
  | coalesced (rule : String)
deriving DecidableEq

/-- The protocols that a sighting is listed under. -/
def Outcome.protocols : Outcome → ProtocolSet
  | .assigned protocols => protocols
  | .coalesced _ => ∅

/-- A judged sighting. -/
structure Verdict where
  sighting : Sighting
  /-- The protocols of the beacon that the platform can use. -/
  usable : ProtocolSet
  outcome : Outcome
deriving DecidableEq

/-- Whether the sighting is listed under a key. -/
def Verdict.isListedUnder (verdict : Verdict) (key : EntryKey) : Bool :=
  verdict.sighting.name == key.name && verdict.outcome.protocols.contains key.protocol

namespace Policy

/-- Decides about usable protocols under the given presence. -/
def outcome (policy : Policy) (presence : Presence) (usable : ProtocolSet) : Outcome :=
  match policy.mode with
  | .multiple => .assigned (multipleSelection usable)
  | .single =>
    match singleSelection presence usable with
    | (_, .assign protocols) => .assigned protocols
    | (rule, .coalesce) => .coalesced rule.label

/-- Judges one sighting under the given presence. -/
def verdict (policy : Policy) (presence : Presence) (sighting : Sighting) : Verdict :=
  let usable := policy.platform.usable sighting.protocols
  ⟨sighting, usable, policy.outcome presence usable⟩

/-- Judges the members of one group. -/
def judge (policy : Policy) (saved : Option ProfileIndex) (name : String)
    (members : List Sighting) : List Verdict :=
  members.map (policy.verdict (Presence.ofGroup name members saved))

/-- Judges groups in the given order. -/
def verdicts (policy : Policy) (saved : Option ProfileIndex)
    (groups : List (String × List Sighting)) : List Verdict :=
  groups.flatMap fun (name, members) => policy.judge saved name members

end Policy

end WifiRoster
