import Mathlib.Tactic.Lemma
import WifiRoster.Observation
import WifiRoster.Platform

/-!
# Families of protocols

The classification table knows nine sets of protocols, and the members of each are of one family:
the personal protocols PSK and SAE, the open ones with and without encryption, or a protocol that
stands alone. `Offered` lists the sets, `offered_classify` says that there are no others, and
`Offered.oneFamily` is the invariant that every later choice relies on. Taking out what the
platform cannot use keeps it (`OneFamily.usable`).
-/

namespace WifiRoster

/-- Protocols that one beacon can offer side by side. -/
inductive Protocol.Family where
  /-- PSK and SAE. -/
  | personal
  /-- No security at all, and OWE. -/
  | unlocked
  | wep
  | eap
  | suiteB
deriving DecidableEq

/-- The family of a protocol. -/
def Protocol.family : Protocol → Protocol.Family
  | psk | sae => .personal
  | unsecured | owe => .unlocked
  | wep => .wep
  | eap => .eap
  | suiteB => .suiteB

/-- The members of the set are of one family. -/
def ProtocolSet.OneFamily (protocols : ProtocolSet) : Prop :=
  ∀ p ∈ protocols, ∀ q ∈ protocols, p.family = q.family

/-- Whether the platform can use a protocol; only three protocols have a gate. -/
def Platform.supports (platform : Platform) : Protocol → Bool
  | .sae => platform.sae
  | .suiteB => platform.suiteB
  | .owe => platform.enhancedOpen
  | .unsecured | .wep | .psk | .eap => true

/-- The sets of protocols that a beacon can offer. -/
inductive Offered : ProtocolSet → Prop where
  | pskSae : Offered (.ofList [.psk, .sae])
  | oweTransition : Offered (.ofList [.unsecured, .owe])
  | owe : Offered (.single .owe)
  | wep : Offered (.single .wep)
  | sae : Offered (.single .sae)
  | psk : Offered (.single .psk)
  | suiteB : Offered (.single .suiteB)
  | eap : Offered (.single .eap)
  | unsecured : Offered (.single .unsecured)

/-- What is usable is offered and supported. -/
lemma Platform.mem_usable_iff {platform : Platform} {protocols : ProtocolSet} {p : Protocol} :
    p ∈ platform.usable protocols ↔ p ∈ protocols ∧ platform.supports p = true := by
  rw [Platform.mem_usable, Platform.mem_unsupported]
  cases p <;> simp [Platform.supports]

/-- A member keeps protocols of other families out of the set. -/
lemma ProtocolSet.OneFamily.not_mem {protocols : ProtocolSet} {p q : Protocol}
    (one : protocols.OneFamily) (hp : p ∈ protocols) (differ : p.family ≠ q.family) :
    q ∉ protocols :=
  fun hq => differ (one p hp q hq)

/-- A part of what is of one family is of one family. -/
lemma ProtocolSet.OneFamily.mono {protocols part : ProtocolSet} (one : protocols.OneFamily)
    (sub : ∀ p ∈ part, p ∈ protocols) : part.OneFamily :=
  fun p hp q hq => one p (sub p hp) q (sub q hq)

/-- Taking out what a platform cannot use keeps a set within one family. -/
lemma ProtocolSet.OneFamily.usable {protocols : ProtocolSet} (one : protocols.OneFamily)
    (platform : Platform) : (platform.usable protocols).OneFamily :=
  one.mono fun _ hp => (Platform.mem_usable.1 hp).1

/-- A set of one family in which a protocol has no company is made of that protocol. -/
lemma ProtocolSet.OneFamily.eq_single {protocols : ProtocolSet} {p : Protocol}
    (one : protocols.OneFamily) (hp : p ∈ protocols)
    (alone : ∀ q ∈ protocols, q.family = p.family → q = p) : protocols = .single p := by
  apply ProtocolSet.ext
  intro q
  rw [ProtocolSet.mem_single]
  constructor
  · intro hq
    exact alone q hq (one q hq p hp)
  · rintro rfl
    exact hp

/-- Enhanced Open without an open protocol beside it stands alone. -/
lemma ProtocolSet.OneFamily.eq_single_owe {protocols : ProtocolSet} (one : protocols.OneFamily)
    (howe : .owe ∈ protocols) (hopen : .unsecured ∉ protocols) : protocols = .single .owe := by
  apply one.eq_single howe
  intro q hq same
  cases q with
  | owe => rfl
  | unsecured => exact absurd hq hopen
  | _ => cases same

/-- An open protocol without Enhanced Open beside it stands alone. -/
lemma ProtocolSet.OneFamily.eq_single_unsecured {protocols : ProtocolSet}
    (one : protocols.OneFamily) (hopen : .unsecured ∈ protocols) (howe : .owe ∉ protocols) :
    protocols = .single .unsecured := by
  apply one.eq_single hopen
  intro q hq same
  cases q with
  | unsecured => rfl
  | owe => exact absurd hq howe
  | _ => cases same

/-- The members of a pair are the two. -/
lemma ProtocolSet.mem_pair {p first second : Protocol} :
    p ∈ ProtocolSet.ofList [first, second] ↔ p = first ∨ p = second := by
  simp only [ProtocolSet.mem_ofList, List.mem_cons, List.not_mem_nil, or_false]

/-- A protocol alone is of one family. -/
lemma ProtocolSet.oneFamily_single (p : Protocol) : (ProtocolSet.single p).OneFamily := by
  intro q hq r hr
  rw [ProtocolSet.mem_single.1 hq, ProtocolSet.mem_single.1 hr]

/-- Two protocols of the same family are of one family. -/
lemma ProtocolSet.oneFamily_pair {first second : Protocol} (same : first.family = second.family) :
    (ProtocolSet.ofList [first, second]).OneFamily := by
  intro p hp q hq
  obtain rfl | rfl := ProtocolSet.mem_pair.1 hp
  · obtain rfl | rfl := ProtocolSet.mem_pair.1 hq
    · rfl
    · exact same
  · obtain rfl | rfl := ProtocolSet.mem_pair.1 hq
    · exact same.symm
    · rfl

/-- What a beacon can offer is of one family. -/
lemma Offered.oneFamily {protocols : ProtocolSet} (offered : Offered protocols) :
    protocols.OneFamily := by
  cases offered with
  | pskSae => exact ProtocolSet.oneFamily_pair rfl
  | oweTransition => exact ProtocolSet.oneFamily_pair rfl
  | _ => exact ProtocolSet.oneFamily_single _

/-- A beacon with SAE has it alone or beside PSK. -/
lemma Offered.eq_of_sae {protocols : ProtocolSet} (offered : Offered protocols)
    (hsae : .sae ∈ protocols) : protocols = .single .sae ∨ protocols = .ofList [.psk, .sae] := by
  cases offered with
  | sae => exact .inl rfl
  | pskSae => exact .inr rfl
  | _ => exact absurd hsae (by decide)

/-- A beacon with OWE has it alone or is open beside. -/
lemma Offered.eq_of_owe {protocols : ProtocolSet} (offered : Offered protocols)
    (howe : .owe ∈ protocols) :
    protocols = .single .owe ∨ protocols = .ofList [.unsecured, .owe] := by
  cases offered with
  | owe => exact .inl rfl
  | oweTransition => exact .inr rfl
  | _ => exact absurd howe (by decide)

/-- Each row of the classification table gives one of the nine sets. -/
lemma ClassificationRule.offered_of_mem {rule : ClassificationRule}
    (hrule : rule ∈ ClassificationRule.table) : Offered rule.protocols := by
  simp only [ClassificationRule.table, List.mem_cons, List.not_mem_nil, or_false] at hrule
  -- one case per row, in the order of the table
  rcases hrule with rfl | rfl | rfl | rfl | rfl | rfl | rfl | rfl
  · exact .pskSae
  · exact .oweTransition
  · exact .owe
  · exact .wep
  · exact .sae
  · exact .psk
  · exact .suiteB
  · exact .eap

/-- A descriptor is classified as one of the nine sets, whatever its text. -/
lemma offered_classify (descriptor : Option String) : Offered (classify descriptor) := by
  cases descriptor with
  | none => exact .unsecured
  | some text =>
    simp only [classify]
    split
    · next rule found => exact ClassificationRule.offered_of_mem (List.mem_of_find?_eq_some found)
    · exact .unsecured

/-- A sighted beacon offers one of the nine sets. -/
lemma Sighting.offered (sighting : Sighting) : Offered sighting.protocols :=
  offered_classify sighting.observation.descriptor

/-- What the platform can use of a sighted beacon is of one family. -/
lemma Sighting.oneFamily_usable (sighting : Sighting) (platform : Platform) :
    (platform.usable sighting.protocols).OneFamily :=
  sighting.offered.oneFamily.usable platform

end WifiRoster
