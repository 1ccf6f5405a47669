import WifiRoster.Protocol.Set

/-!
# Selection of protocols

Which protocols one beacon is listed under depends on three things: the shape of its own usable
protocols, which protocols are in range under the same name, and which of them have a saved
profile. In single selection a table of rules is gone through from the top, and the first rule for
the beacon's shape either assigns protocols or coalesces the beacon into a sibling of the same
name, which will be offered instead.

    psk              not psk saved, sae saved, sae in range : coalesce, else PSK
    psk_sae          not psk saved, sae saved               : SAE, else PSK
    sae              not psk saved, sae saved or psk away   : SAE, else PSK
    owe              open in range, open saved, owe not     : coalesce, else nothing
    owe_transition   owe saved or open not                  : OWE, else open
    open             owe in range, owe saved or open not    : coalesce, else open
    other            all usable protocols

In multiple selection a beacon keeps all its usable protocols, and one that has SAE alone of the
two personal protocols also gets PSK, since a PSK profile can be upgraded when connecting.
-/

namespace WifiRoster

/-- The shape of the usable protocols of one beacon. -/
structure Shape where
  psk : Bool
  sae : Bool
  pskSaeTransition : Bool
  owe : Bool
  oweTransition : Bool
  unsecured : Bool
deriving DecidableEq, Repr

/-- The shape of a set of protocols: which of two related protocols it has, or both. -/
def ProtocolSet.shape (protocols : ProtocolSet) : Shape :=
  let psk := protocols.contains .psk
  let sae := protocols.contains .sae
  let owe := protocols.contains .owe
  let unsecured := protocols.contains .unsecured
  { psk := psk && !sae
    sae := sae && !psk
    pskSaeTransition := psk && sae
    owe := owe && !unsecured
    oweTransition := unsecured && owe
    unsecured := unsecured && !owe }

/-- What is in range and what is saved under one network name. -/
structure Presence where
  pskInRange : Bool
  saeInRange : Bool
  oweInRange : Bool
  openInRange : Bool
  pskSaved : Bool
  saeSaved : Bool
  openSaved : Bool
  oweSaved : Bool
deriving DecidableEq, Repr

/-- The presence with the protocols of one more beacon in range. -/
def Presence.observe (presence : Presence) (protocols : ProtocolSet) : Presence :=
  { presence with
    pskInRange := presence.pskInRange || protocols.contains .psk
    saeInRange := presence.saeInRange || protocols.contains .sae
    oweInRange := presence.oweInRange || protocols.contains .owe
    openInRange := presence.openInRange || protocols.contains .unsecured }

/-- What single selection decides about a beacon. -/
inductive Choice where
  /-- The beacon is listed under these protocols, possibly none. -/
  | assign (protocols : ProtocolSet)
  /-- The beacon is left out in favour of a sibling. -/
  | coalesce
deriving DecidableEq

/-- The protocols that a beacon is listed under. -/
def Choice.protocols : Choice → ProtocolSet
  | .assign protocols => protocols
  | .coalesce => ∅

/-- One row of the table of single selection. -/
structure SelectionRule where
  label : String
  /-- The shapes that the rule is for. -/
  applies : Shape → Bool
  /-- What the rule decides about usable protocols. -/
  choose : Presence → ProtocolSet → Choice

namespace SelectionRule

/-- The choice of one protocol. -/
def one (p : Protocol) : Choice := .assign (.single p)

/-- A beacon with PSK alone. -/
def psk : SelectionRule where
  label := "psk"
  applies := (·.psk)
  choose presence _ :=
    if !presence.pskSaved && presence.saeSaved && presence.saeInRange then .coalesce else one .psk

/-- A beacon with both personal protocols. -/
def pskSae : SelectionRule where
  label := "psk_sae"
  applies := (·.pskSaeTransition)
  choose presence _ := if !presence.pskSaved && presence.saeSaved then one .sae else one .psk

/-- A beacon with SAE alone. -/
def sae : SelectionRule where
  label := "sae"
  applies := (·.sae)
  choose presence _ :=
    if !presence.pskSaved && (presence.saeSaved || !presence.pskInRange) then one .sae else one .psk

/-- A beacon with OWE alone, which is listed under nothing even if it is not coalesced. -/
def owe : SelectionRule where
  label := "owe"
  applies := (·.owe)
  choose presence _ :=
    if presence.openInRange && presence.openSaved && !presence.oweSaved then .coalesce
    else .assign ∅

/-- A beacon that is open and has OWE. -/
def oweTransition : SelectionRule where
  label := "owe_transition"
  applies := (·.oweTransition)
  choose presence _ :=
    if presence.oweSaved || !presence.openSaved then one .owe else one .unsecured

/-- A beacon that is open only. -/
def unsecured : SelectionRule where
  label := "open"
  applies := (·.unsecured)
  choose presence _ :=
    if presence.oweInRange && (presence.oweSaved || !presence.openSaved) then .coalesce
    else one .unsecured

/-- Every other beacon. -/
def other : SelectionRule where
  label := "other"
  applies _ := true
  choose _ usable := .assign usable

/-- The table of single selection, in order of precedence. -/
def table : List SelectionRule := [psk, pskSae, sae, owe, oweTransition, unsecured, other]

/-- The first rule for a shape. -/
def forShape (shape : Shape) : SelectionRule :=
  (table.find? (·.applies shape)).getD other

end SelectionRule

/-- The rule of single selection that decides about a beacon, and what it decides. -/
def singleSelection (presence : Presence) (usable : ProtocolSet) : SelectionRule × Choice :=
  let rule := SelectionRule.forShape usable.shape
  (rule, rule.choose presence usable)

/-- The protocols of a beacon in multiple selection. -/
def multipleSelection (usable : ProtocolSet) : ProtocolSet :=
  if usable.shape.sae then usable.insert .psk else usable

end WifiRoster
