import WifiRoster.Protocol.Set
import WifiRoster.Text.Occurs

/-!
# Classification of capability descriptors

A beacon describes its security by a descriptor such as `[WPA2-PSK-CCMP][ESS]`. A table of rules
is gone through from the top, and the first rule all of whose tokens occur in the descriptor tells
the protocols. The order of the rules keeps apart tokens that contain one another: a descriptor
with `OWE_TRANSITION` also has `OWE`.
-/

namespace WifiRoster

/-- One row of the classification table. -/
structure ClassificationRule where
  /-- The tokens that have to occur in a descriptor, all of them. -/
  tokens : List String
  /-- The protocols of the descriptors that the rule is for. -/
  protocols : ProtocolSet
deriving DecidableEq

namespace ClassificationRule

/-- Whether all tokens of the rule occur in the descriptor. -/
def applies (rule : ClassificationRule) (descriptor : String) : Bool :=
  rule.tokens.all fun token => Text.occurs token.toList descriptor.toList

/-- The classification table, in order of precedence. -/
def table : List ClassificationRule :=
  [⟨["PSK", "SAE"], .ofList [.psk, .sae]⟩,
   ⟨["OWE_TRANSITION"], .ofList [.unsecured, .owe]⟩,
   ⟨["OWE"], .single .owe⟩,
   ⟨["WEP"], .single .wep⟩,
   ⟨["SAE"], .single .sae⟩,
   ⟨["PSK"], .single .psk⟩,
   ⟨["EAP_SUITE_B_192"], .single .suiteB⟩,
   ⟨["EAP"], .single .eap⟩]

/-- The protocols of a descriptor that no rule is for. -/
def fallback : ProtocolSet := .single .unsecured

end ClassificationRule

open ClassificationRule in
/-- The protocols that a beacon with this descriptor offers; without a descriptor it is open. -/
def classify : Option String → ProtocolSet
  | none => fallback
  | some descriptor =>
    match table.find? (·.applies descriptor) with
    | some rule => rule.protocols
    | none => fallback

/-- A rule applies exactly when each of its tokens is an infix of the descriptor. -/
theorem ClassificationRule.applies_iff {rule : ClassificationRule} {descriptor : String} :
    rule.applies descriptor = true ↔
      ∀ token ∈ rule.tokens, token.toList <:+: descriptor.toList := by
  simp [applies, Text.occurs_iff_infix]

end WifiRoster
