import WifiRoster.Classification

/-!
# Observations

One beacon received during a scan is an observation. A scan gives a list of them; a sighting is an
observation together with its position in that list, so that equal beacons stay apart.
-/

namespace WifiRoster

/-- One received beacon. -/
structure Observation where
  /-- The network name; empty for a hidden network. -/
  name : String
  /-- What the beacon says about its capabilities, if it says anything. -/
  descriptor : Option String
  /-- The received signal level in dBm. -/
  level : Int32
deriving DecidableEq, Repr

/-- The protocols that the beacon offers, whether or not the platform can use them. -/
def Observation.protocols (observation : Observation) : ProtocolSet :=
  classify observation.descriptor

/-- An observation at a position of a scan. -/
structure Sighting where
  position : Nat
  observation : Observation
deriving DecidableEq, Repr

namespace Sighting

/-- The name of the observed network. -/
def name (sighting : Sighting) : String := sighting.observation.name

/-- The protocols that the observed beacon offers. -/
def protocols (sighting : Sighting) : ProtocolSet := sighting.observation.protocols

/-- The received signal level. -/
def level (sighting : Sighting) : Int32 := sighting.observation.level

/-- The observations of a scan, numbered from zero. -/
def ofScan (scan : List Observation) : List Sighting :=
  scan.zipIdx.map fun (observation, position) => ⟨position, observation⟩

/-- The better of the best sighting so far and a later one; a tie keeps the earlier. -/
def better : Option Sighting → Sighting → Option Sighting
  | none, candidate => some candidate
  | some best, candidate => if candidate.level ≤ best.level then some best else some candidate

/-- The first of the strongest sightings. -/
def strongest? (sightings : List Sighting) : Option Sighting := sightings.foldl better none

/-- The sightings of a scan hold its observations, in their order. -/
theorem ofScan_observation (scan : List Observation) :
    (ofScan scan).map (·.observation) = scan := by
  simp only [ofScan, List.map_map]
  exact List.zipIdx_map_fst 0 scan

/-- Every sighting of a scan stands at its own position. -/
theorem getElem?_ofScan (scan : List Observation) (place : Nat) :
    (ofScan scan)[place]? = scan[place]?.map (⟨place, ·⟩) := by
  rw [ofScan, List.getElem?_map, List.getElem?_zipIdx, Option.map_map, Nat.zero_add]
  rfl

end Sighting

end WifiRoster
