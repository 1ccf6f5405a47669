import WifiRoster.Proofs.Family
import WifiRoster.Selection

/-!
# The closed form of single selection

The rows of the table look at different bits of presence, but beacons of one name that are judged
under the same presence follow one preference per family. `Presence.favoursSae` tells whether the
personal family of a name is listed under SAE, `Presence.favoursOwe` whether the unlocked family is
listed under OWE.

`first_forShape` says once which row is the first for a set of usable protocols. Each row is
then read in terms of the preference (`choose_psk`, `choose_pskSae`, …), and `mem_singleSelection`
puts the rows together: the protocols that a beacon is listed under, one by one, without the table.
The only thing that the rows take for granted is that the beacon itself counts as in range
(`Presence.Covers`). `Presence.lists_iff` takes the closed form apart into what the beacon admits
(`ProtocolSet.Admits`) and which protocol of each family the name goes by (`Presence.favourite`).
-/

namespace WifiRoster

/-- What the beacon offers counts as in range. -/
structure Presence.Covers (presence : Presence) (protocols : ProtocolSet) : Prop where
  psk : .psk ∈ protocols → presence.pskInRange = true
  sae : .sae ∈ protocols → presence.saeInRange = true
  owe : .owe ∈ protocols → presence.oweInRange = true
  unsecured : .unsecured ∈ protocols → presence.openInRange = true

/-- Whether the personal beacons of the name go by SAE. -/
def Presence.favoursSae (presence : Presence) : Bool :=
  !presence.pskSaved && (presence.saeSaved || !presence.pskInRange) && presence.saeInRange

/-- Whether the unlocked beacons of the name go by OWE. -/
def Presence.favoursOwe (presence : Presence) : Bool :=
  (presence.oweSaved || !presence.openSaved) && presence.oweInRange

/-- The one protocol of each family that beacons of the name are listed under. -/
def Presence.favourite (presence : Presence) : Protocol.Family → Protocol
  | .personal => if presence.favoursSae then .sae else .psk
  | .unlocked => if presence.favoursOwe then .owe else .unsecured
  | .wep => .wep
  | .eap => .eap
  | .suiteB => .suiteB

/-- Whether a beacon with these usable protocols is listed under a protocol. -/
def Presence.Lists (presence : Presence) (usable : ProtocolSet) : Protocol → Prop
  | .psk => (.psk ∈ usable ∨ .sae ∈ usable) ∧ presence.favoursSae = false
  | .sae => .sae ∈ usable ∧ presence.favoursSae = true
  | .owe => (.owe ∈ usable ∧ .unsecured ∈ usable) ∧ presence.favoursOwe = true
  | .unsecured => .unsecured ∈ usable ∧ presence.favoursOwe = false
  | .wep => .wep ∈ usable
  | .eap => .eap ∈ usable
  | .suiteB => .suiteB ∈ usable

/-- What covers protocols covers a part of them. -/
lemma Presence.Covers.mono {presence : Presence} {protocols part : ProtocolSet}
    (covers : presence.Covers protocols) (sub : ∀ p ∈ part, p ∈ protocols) :
    presence.Covers part where
  psk h := covers.psk (sub _ h)
  sae h := covers.sae (sub _ h)
  owe h := covers.owe (sub _ h)
  unsecured h := covers.unsecured (sub _ h)

/-- Whatever a beacon is listed under is the favourite of its family. -/
lemma Presence.Lists.eq_favourite {presence : Presence} {usable : ProtocolSet} {p : Protocol}
    (lists : presence.Lists usable p) : p = presence.favourite p.family := by
  cases p with
  | psk => simp [Protocol.family, Presence.favourite, lists.2]
  | sae => simp [Protocol.family, Presence.favourite, lists.2]
  | owe => simp [Protocol.family, Presence.favourite, lists.2]
  | unsecured => simp [Protocol.family, Presence.favourite, lists.2]
  | wep => rfl
  | eap => rfl
  | suiteB => rfl

/-- Of one family only one protocol is listed, whichever beacons are looked at. -/
lemma Presence.Lists.family_inj {presence : Presence} {usable other : ProtocolSet}
    {p q : Protocol} (hp : presence.Lists usable p) (hq : presence.Lists other q)
    (same : p.family = q.family) : p = q := by
  rw [hp.eq_favourite, hq.eq_favourite, same]

/-- Whether a beacon with these usable protocols can be listed under a protocol at all. -/
def ProtocolSet.Admits (usable : ProtocolSet) : Protocol → Prop
  | .psk => .psk ∈ usable ∨ .sae ∈ usable
  | .owe => .owe ∈ usable ∧ .unsecured ∈ usable
  | p => p ∈ usable

/-- A beacon is listed under the protocols that it admits and that the name goes by. -/
lemma Presence.lists_iff {presence : Presence} {usable : ProtocolSet} {p : Protocol} :
    presence.Lists usable p ↔ usable.Admits p ∧ presence.favourite p.family = p := by
  cases p <;> simp [Presence.Lists, ProtocolSet.Admits, Presence.favourite, Protocol.family]

/-- What is admitted is of the family of a protocol that can be used. -/
lemma ProtocolSet.Admits.exists_mem {usable : ProtocolSet} {p : Protocol}
    (admits : usable.Admits p) : ∃ q ∈ usable, q.family = p.family := by
  cases p with
  | psk =>
    obtain hpsk | hsae := admits
    · exact ⟨.psk, hpsk, rfl⟩
    · exact ⟨.sae, hsae, rfl⟩
  | owe => exact ⟨.owe, admits.1, rfl⟩
  | _ => exact ⟨_, admits, rfl⟩

/-- Where the usable protocols are of one family, so are the admitted ones. -/
lemma ProtocolSet.OneFamily.admits_family {usable : ProtocolSet} {p q : Protocol}
    (one : usable.OneFamily) (hp : usable.Admits p) (hq : usable.Admits q) :
    p.family = q.family := by
  obtain ⟨r, hr, er⟩ := hp.exists_mem
  obtain ⟨s, hs, es⟩ := hq.exists_mem
  rw [← er, ← es]
  exact one r hr s hs

/-- A beacon is listed under one protocol at most. -/
lemma Presence.Lists.unique {presence : Presence} {usable : ProtocolSet} {p q : Protocol}
    (hp : presence.Lists usable p) (hq : presence.Lists usable q) (one : usable.OneFamily) :
    p = q := by
  apply hp.family_inj hq
  exact one.admits_family (Presence.lists_iff.1 hp).1 (Presence.lists_iff.1 hq).1

namespace SelectionRule

/-- Which row of the table is the first for a set of usable protocols. -/
inductive First (usable : ProtocolSet) : SelectionRule → Prop where
  | psk : .psk ∈ usable → .sae ∉ usable → First usable .psk
  | pskSae : .psk ∈ usable → .sae ∈ usable → First usable .pskSae
  | sae : .sae ∈ usable → .psk ∉ usable → First usable .sae
  | owe : .psk ∉ usable → .sae ∉ usable → .owe ∈ usable → .unsecured ∉ usable →
      First usable .owe
  | oweTransition : .psk ∉ usable → .sae ∉ usable → .owe ∈ usable → .unsecured ∈ usable →
      First usable .oweTransition
  | unsecured : .psk ∉ usable → .sae ∉ usable → .unsecured ∈ usable → .owe ∉ usable →
      First usable .unsecured
  | other : .psk ∉ usable → .sae ∉ usable → .owe ∉ usable → .unsecured ∉ usable →
      First usable .other

/-- The search through the table, as a decision on four protocols. -/
lemma forShape_eq (usable : ProtocolSet) :
    forShape usable.shape =
      if .psk ∈ usable then
        if .sae ∈ usable then pskSae else psk
      else if .sae ∈ usable then sae
      else if .owe ∈ usable then
        if .unsecured ∈ usable then oweTransition else owe
      else if .unsecured ∈ usable then unsecured
      else other := by
  simp only [ProtocolSet.mem_iff, forShape, table, ProtocolSet.shape]
  -- the shape is made of these four bits, and the search computes once they are known
  cases usable.contains .psk <;> cases usable.contains .sae <;>
    cases usable.contains .owe <;> cases usable.contains .unsecured <;> rfl

/-- The row that the search finds is the first one. -/
lemma first_forShape (usable : ProtocolSet) : First usable (forShape usable.shape) := by
  rw [forShape_eq]
  split
  · next hpsk =>
    split
    · next hsae => exact .pskSae hpsk hsae
    · next hsae => exact .psk hpsk hsae
  · next hpsk =>
    split
    · next hsae => exact .sae hsae hpsk
    · next hsae =>
      split
      · next howe =>
        split
        · next hopen => exact .oweTransition hpsk hsae howe hopen
        · next hopen => exact .owe hpsk hsae howe hopen
      · next howe =>
        split
        · next hopen => exact .unsecured hpsk hsae hopen howe
        · next hopen => exact .other hpsk hsae howe hopen

section Rows

variable {presence : Presence} {usable : ProtocolSet}

/-- A beacon with PSK alone is listed unless the name goes by SAE. -/
lemma choose_psk (covers : presence.Covers usable) (hpsk : .psk ∈ usable) :
    psk.choose presence usable = if presence.favoursSae then .coalesce else one .psk := by
  simp [psk, Presence.favoursSae, covers.psk hpsk]

/-- A beacon with both personal protocols is listed under the one that the name goes by. -/
lemma choose_pskSae (covers : presence.Covers usable) (hpsk : .psk ∈ usable)
    (hsae : .sae ∈ usable) :
    pskSae.choose presence usable = if presence.favoursSae then one .sae else one .psk := by
  simp [pskSae, Presence.favoursSae, covers.psk hpsk, covers.sae hsae]

/-- A beacon with SAE alone is listed under the protocol that the name goes by. -/
lemma choose_sae (covers : presence.Covers usable) (hsae : .sae ∈ usable) :
    sae.choose presence usable = if presence.favoursSae then one .sae else one .psk := by
  simp [sae, Presence.favoursSae, covers.sae hsae]

/-- A beacon with OWE alone is never listed; it is coalesced if the name goes by open beacons. -/
lemma choose_owe (covers : presence.Covers usable) (howe : .owe ∈ usable) :
    owe.choose presence usable =
      if presence.openInRange && !presence.favoursOwe then .coalesce else .assign ∅ := by
  simp [owe, Presence.favoursOwe, covers.owe howe, and_assoc, and_comm]

/-- An open beacon with OWE is listed under the protocol that the name goes by. -/
lemma choose_oweTransition (covers : presence.Covers usable) (howe : .owe ∈ usable) :
    oweTransition.choose presence usable =
      if presence.favoursOwe then one .owe else one .unsecured := by
  simp [oweTransition, Presence.favoursOwe, covers.owe howe]

/-- A beacon that is only open is listed unless the name goes by OWE. -/
lemma choose_unsecured :
    unsecured.choose presence usable =
      if presence.favoursOwe then .coalesce else one .unsecured := by
  simp [unsecured, Presence.favoursOwe, and_comm]

end Rows

end SelectionRule

/-- The choice of one protocol lists a beacon under that protocol only. -/
@[simp] lemma SelectionRule.mem_protocols_one {p q : Protocol} :
    q ∈ (SelectionRule.one p).protocols ↔ q = p :=
  ProtocolSet.mem_single

/-- A coalesced beacon is listed under nothing. -/
@[simp] lemma Choice.not_mem_coalesce (p : Protocol) : p ∉ Choice.coalesce.protocols :=
  ProtocolSet.not_mem_empty p

/-- What a beacon is listed under, told protocol by protocol. -/
lemma mem_singleSelection {presence : Presence} {usable : ProtocolSet}
    (covers : presence.Covers usable) (one : usable.OneFamily) (p : Protocol) :
    p ∈ (singleSelection presence usable).2.protocols ↔ presence.Lists usable p := by
  have first := SelectionRule.first_forShape usable
  simp only [singleSelection]
  generalize SelectionRule.forShape usable.shape = row at first ⊢
  -- `apart` keeps the other families out, whose protocols the row does not look at
  cases first with
  | psk hpsk hsae =>
    have apart {q : Protocol} := one.not_mem (q := q) hpsk
    rw [SelectionRule.choose_psk covers hpsk]
    cases favours : presence.favoursSae <;> cases p <;>
      simp (disch := decide) [Presence.Lists, hpsk, hsae, favours, apart]
  | pskSae hpsk hsae =>
    have apart {q : Protocol} := one.not_mem (q := q) hpsk
    rw [SelectionRule.choose_pskSae covers hpsk hsae]
    cases favours : presence.favoursSae <;> cases p <;>
      simp (disch := decide) [Presence.Lists, hpsk, hsae, favours, apart]
  | sae hsae hpsk =>
    have apart {q : Protocol} := one.not_mem (q := q) hsae
    rw [SelectionRule.choose_sae covers hsae]
    cases favours : presence.favoursSae <;> cases p <;>
      simp (disch := decide) [Presence.Lists, hpsk, hsae, favours, apart]
  | owe hpsk hsae howe hopen =>
    have apart {q : Protocol} := one.not_mem (q := q) howe
    -- coalesced or assigned to nothing, the beacon is not listed
    have nothing : p ∉ (SelectionRule.owe.choose presence usable).protocols := by
      rw [SelectionRule.choose_owe covers howe]
      split <;> exact ProtocolSet.not_mem_empty p
    cases p <;> simp (disch := decide) [Presence.Lists, nothing, hpsk, hsae, hopen, apart]
  | oweTransition hpsk hsae howe hopen =>
    have apart {q : Protocol} := one.not_mem (q := q) howe
    rw [SelectionRule.choose_oweTransition covers howe]
    cases favours : presence.favoursOwe <;> cases p <;>
      simp (disch := decide) [Presence.Lists, hpsk, hsae, howe, hopen, favours, apart]
  | unsecured hpsk hsae hopen howe =>
    have apart {q : Protocol} := one.not_mem (q := q) hopen
    rw [SelectionRule.choose_unsecured]
    cases favours : presence.favoursOwe <;> cases p <;>
      simp (disch := decide) [Presence.Lists, hpsk, hsae, howe, hopen, favours, apart]
  | other hpsk hsae howe hopen =>
    cases p <;> simp [SelectionRule.other, Choice.protocols, Presence.Lists, hpsk, hsae, howe,
      hopen]

/-- When a beacon is coalesced: alone in its family, and the name goes by the other protocol. -/
lemma singleSelection_eq_coalesce_iff {presence : Presence} {usable : ProtocolSet}
    (covers : presence.Covers usable) (one : usable.OneFamily) :
    (singleSelection presence usable).2 = .coalesce ↔
      (.psk ∈ usable ∧ .sae ∉ usable ∧ presence.favoursSae = true) ∨
      (.owe ∈ usable ∧ .unsecured ∉ usable ∧
        presence.openInRange = true ∧ presence.favoursOwe = false) ∨
      (.unsecured ∈ usable ∧ .owe ∉ usable ∧ presence.favoursOwe = true) := by
  have first := SelectionRule.first_forShape usable
  simp only [singleSelection]
  generalize SelectionRule.forShape usable.shape = row at first ⊢
  cases first with
  | psk hpsk hsae =>
    have howe : .owe ∉ usable := one.not_mem hpsk (by decide)
    have hopen : .unsecured ∉ usable := one.not_mem hpsk (by decide)
    rw [SelectionRule.choose_psk covers hpsk]
    cases presence.favoursSae <;> simp [SelectionRule.one, hpsk, hsae, howe, hopen]
  | pskSae hpsk hsae =>
    have howe : .owe ∉ usable := one.not_mem hpsk (by decide)
    have hopen : .unsecured ∉ usable := one.not_mem hpsk (by decide)
    rw [SelectionRule.choose_pskSae covers hpsk hsae]
    cases presence.favoursSae <;> simp [SelectionRule.one, hsae, howe, hopen]
  | sae hsae hpsk =>
    have howe : .owe ∉ usable := one.not_mem hsae (by decide)
    have hopen : .unsecured ∉ usable := one.not_mem hsae (by decide)
    rw [SelectionRule.choose_sae covers hsae]
    cases presence.favoursSae <;> simp [SelectionRule.one, hpsk, howe, hopen]
  | owe hpsk hsae howe hopen =>
    rw [SelectionRule.choose_owe covers howe]
    cases presence.openInRange <;> cases presence.favoursOwe <;> simp [hpsk, howe, hopen]
  | oweTransition hpsk hsae howe hopen =>
    rw [SelectionRule.choose_oweTransition covers howe]
    cases presence.favoursOwe <;> simp [SelectionRule.one, hpsk, howe, hopen]
  | unsecured hpsk hsae hopen howe =>
    rw [SelectionRule.choose_unsecured]
    cases presence.favoursOwe <;> simp [SelectionRule.one, hpsk, howe, hopen]
  | other hpsk hsae howe hopen => simp [SelectionRule.other, hpsk, howe, hopen]

/-- In multiple selection a beacon is listed under what it has, and under PSK if SAE has no PSK
beside it. -/
lemma mem_multipleSelection {usable : ProtocolSet} {p : Protocol} :
    p ∈ multipleSelection usable ↔ p ∈ usable ∨ p = .psk ∧ .sae ∈ usable ∧ .psk ∉ usable := by
  have shape : usable.shape.sae = true ↔ .sae ∈ usable ∧ .psk ∉ usable := by
    simp [ProtocolSet.shape, ProtocolSet.mem_iff]
  unfold multipleSelection
  split
  · next alone => simp [ProtocolSet.mem_insert, shape.1 alone]
  · next beside => simp [mt shape.2 beside]

end WifiRoster
