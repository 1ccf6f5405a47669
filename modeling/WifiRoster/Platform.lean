import WifiRoster.Protocol.Set

/-!
# Platform support

Some protocols need support from the platform. What the platform lacks is taken out of the
protocols of a beacon before one of them is chosen.
-/

namespace WifiRoster

/-- Which of the newer protocols the platform supports. -/
structure Platform where
  sae : Bool
  suiteB : Bool
  enhancedOpen : Bool
deriving DecidableEq, Repr

namespace Platform

/-- A platform that supports everything. -/
def full : Platform := ⟨true, true, true⟩

/-- The protocols that the platform cannot use. -/
def unsupported (platform : Platform) : ProtocolSet :=
  let lacking (supported : Bool) (p : Protocol) : List Protocol := if supported then [] else [p]
  .ofList (lacking platform.sae .sae ++ lacking platform.suiteB .suiteB ++
    lacking platform.enhancedOpen .owe)

/-- The protocols of a set that the platform can use. -/
def usable (platform : Platform) (protocols : ProtocolSet) : ProtocolSet :=
  protocols.difference platform.unsupported

/-- Only three protocols can be unsupported, each by a gate of its own. -/
theorem mem_unsupported {platform : Platform} {p : Protocol} :
    p ∈ platform.unsupported ↔
      p = .sae ∧ platform.sae = false ∨ p = .suiteB ∧ platform.suiteB = false ∨
        p = .owe ∧ platform.enhancedOpen = false := by
  obtain ⟨sae, suiteB, enhancedOpen⟩ := platform
  cases sae <;> cases suiteB <;> cases enhancedOpen <;> simp [unsupported]

/-- What is usable is offered and not unsupported. -/
theorem mem_usable {platform : Platform} {protocols : ProtocolSet} {p : Protocol} :
    p ∈ platform.usable protocols ↔ p ∈ protocols ∧ p ∉ platform.unsupported :=
  ProtocolSet.mem_difference

/-- A platform that supports everything takes nothing out. -/
theorem usable_full (protocols : ProtocolSet) : full.usable protocols = protocols := by
  apply ProtocolSet.ext
  simp [mem_usable, mem_unsupported, full]

end Platform

end WifiRoster
