import WifiRoster.Tag
import Std.Data.ExtTreeMap.Lemmas

/-!
# Security protocols

The seven ways in which a Wi-Fi network can be secured, their tags, and their fixed order. A tag
names exactly one protocol (`ofTag_tag`, `ofTag_eq_ok_iff`), and the order is that of `all`.
-/

namespace WifiRoster

/-- A security protocol, in order of declaration. -/
inductive Protocol where
  /-- No security at all. -/
  | unsecured
  /-- Enhanced Open: encrypted without a credential. -/
  | owe
  | wep
  /-- WPA2-Personal. -/
  | psk
  /-- WPA3-Personal. -/
  | sae
  | eap
  /-- WPA3-Enterprise with 192-bit security. -/
  | suiteB
deriving DecidableEq, Repr

namespace Protocol

/-- Every protocol, in order. -/
def all : List Protocol := [unsecured, owe, wep, psk, sae, eap, suiteB]

/-- The place of a protocol in the order. -/
def index : Protocol → Nat
  | unsecured => 0
  | owe => 1
  | wep => 2
  | psk => 3
  | sae => 4
  | eap => 5
  | suiteB => 6

/-- The tag that stands for a protocol in an entry key. -/
def tag : Protocol → String
  | unsecured => "NONE"
  | owe => "OWE"
  | wep => "WEP"
  | psk => "PSK"
  | sae => "SAE"
  | eap => "EAP"
  | suiteB => "SUITE_B"

/-- The name of a protocol in diagnostics and in serialized values. -/
def label : Protocol → String
  | unsecured => "Open"
  | owe => "Owe"
  | wep => "Wep"
  | psk => "Psk"
  | sae => "Sae"
  | eap => "Eap"
  | suiteB => "EapSuiteB"

/-- The protocol that a tag stands for; the letters have to agree in case. -/
def ofTag (text : String) : Except TagError Protocol :=
  match all.find? (·.tag == text) with
  | some protocol => .ok protocol
  | none => .error (.unknownProtocol text)

/-- No protocol is missing from the list. -/
theorem mem_all (p : Protocol) : p ∈ all := by cases p <;> decide

/-- There are seven places. -/
theorem index_lt (p : Protocol) : p.index < 7 := by cases p <;> decide

/-- Different protocols have different places. -/
theorem index_inj {p q : Protocol} : p.index = q.index ↔ p = q := by
  cases p <;> cases q <;> decide

/-- The list has every protocol at its place. -/
theorem index_getElem_all {i : Nat} (inside : i < all.length) : all[i].index = i :=
  match i, inside with
  | 0, _ | 1, _ | 2, _ | 3, _ | 4, _ | 5, _ | 6, _ => rfl

/-- Different protocols have different tags. -/
theorem tag_inj {p q : Protocol} : p.tag = q.tag ↔ p = q := by
  cases p <;> cases q <;> decide

/-- The tag of a protocol is read as that protocol. -/
@[simp] theorem ofTag_tag (p : Protocol) : ofTag p.tag = .ok p := by cases p <;> rfl

/-- A text is read as a protocol exactly when it is the tag of it. -/
theorem ofTag_eq_ok_iff {text : String} {p : Protocol} : ofTag text = .ok p ↔ text = p.tag := by
  refine ⟨fun h => ?_, fun h => h ▸ ofTag_tag p⟩
  unfold ofTag at h
  split at h
  · next q hq =>
    cases h
    exact (beq_iff_eq.1 (List.find?_some hq :)).symm
  · cases h

/-- A text is refused exactly when it is no tag, and the refusal names the text. -/
theorem ofTag_eq_error_iff {text : String} {error : TagError} :
    ofTag text = .error error ↔ error = .unknownProtocol text ∧ ∀ p : Protocol, text ≠ p.tag := by
  constructor
  · intro h
    have untagged (p : Protocol) : text ≠ p.tag := by
      rintro rfl
      rw [ofTag_tag] at h
      cases h
    unfold ofTag at h
    split at h
    · cases h
    · cases h
      exact ⟨rfl, untagged⟩
  · rintro ⟨rfl, untagged⟩
    have none : all.find? (·.tag == text) = none :=
      List.find?_eq_none.2 fun p _ same => untagged p (beq_iff_eq.1 same).symm
    rw [ofTag, none]

/-- Protocols are ordered by their places. -/
instance : Ord Protocol := ⟨compareOn index⟩

instance : Std.TransOrd Protocol :=
  inferInstanceAs (Std.TransCmp (compareOn index))

instance : Std.LawfulEqOrd Protocol where
  eq_of_compare h := index_inj.1 (Std.LawfulEqOrd.eq_of_compare h)

end Protocol

end WifiRoster
