import WifiRoster.Protocol

/-!
# Key management

A saved profile lists the key management schemes that it may be used with. They are kept as a set,
a word of bits, so neither their order nor a repetition is left (`SchemeSet.contains_ofList`). From
the set follows the protocol of the profile: the strongest personal scheme decides first, and a
legacy key counts only if no scheme decides.
-/

namespace WifiRoster

/-- A key management scheme, in order of declaration. -/
inductive KeyManagement where
  /-- No key management. -/
  | unmanaged
  | wpaPsk
  | wpaEap
  | ieee8021x
  | sae
  | owe
  | suiteB192
deriving DecidableEq, Repr

namespace KeyManagement

/-- Every scheme, in order. -/
def all : List KeyManagement := [unmanaged, wpaPsk, wpaEap, ieee8021x, sae, owe, suiteB192]

/-- The place of a scheme in the order. -/
def index : KeyManagement → Nat
  | unmanaged => 0
  | wpaPsk => 1
  | wpaEap => 2
  | ieee8021x => 3
  | sae => 4
  | owe => 5
  | suiteB192 => 6

/-- The tag that stands for a scheme. -/
def tag : KeyManagement → String
  | unmanaged => "NONE"
  | wpaPsk => "WPA_PSK"
  | wpaEap => "WPA_EAP"
  | ieee8021x => "IEEE8021X"
  | sae => "SAE"
  | owe => "OWE"
  | suiteB192 => "SUITE_B_192"

/-- The name of a scheme in serialized values. -/
def writtenName : KeyManagement → String
  | unmanaged => "NONE"
  | wpaPsk => "WPA_PSK"
  | wpaEap => "WPA_EAP"
  | ieee8021x => "IEEE8021X"
  | sae => "SAE"
  | owe => "OWE"
  | suiteB192 => "SUITE_B_192"

/-- The name of a scheme in diagnostics. -/
def label : KeyManagement → String
  | unmanaged => "None"
  | wpaPsk => "WpaPsk"
  | wpaEap => "WpaEap"
  | ieee8021x => "Ieee8021x"
  | sae => "Sae"
  | owe => "Owe"
  | suiteB192 => "SuiteB192"

/-- The scheme that a tag stands for; the letters have to agree in case. -/
def ofTag (text : String) : Except TagError KeyManagement :=
  match all.find? (·.tag == text) with
  | some scheme => .ok scheme
  | none => .error (.unknownKeyManagement text)

/-- There are seven places. -/
theorem index_lt (k : KeyManagement) : k.index < 7 := by cases k <;> decide

/-- Every scheme has a place of its own. -/
theorem index_inj {k l : KeyManagement} : k.index = l.index ↔ k = l := by
  cases k <;> cases l <;> decide

/-- The two tables agree: a scheme is serialized under its tag. -/
theorem writtenName_eq_tag (k : KeyManagement) : k.writtenName = k.tag := by cases k <;> rfl

/-- The tag of a scheme is read as that scheme. -/
@[simp] theorem ofTag_tag (k : KeyManagement) : ofTag k.tag = .ok k := by cases k <;> rfl

/-- A text is read as a scheme exactly when it is the tag of it. -/
theorem ofTag_eq_ok_iff {text : String} {k : KeyManagement} :
    ofTag text = .ok k ↔ text = k.tag := by
  refine ⟨fun h => ?_, fun h => h ▸ ofTag_tag k⟩
  unfold ofTag at h
  split at h
  · next q hq =>
    cases h
    exact (beq_iff_eq.1 (List.find?_some hq :)).symm
  · cases h

end KeyManagement

/-- A set of key management schemes: bit `k.index` tells whether `k` is a member. -/
structure SchemeSet where
  bits : BitVec 7
deriving DecidableEq

namespace SchemeSet

/-- Whether a scheme is a member. -/
def contains (s : SchemeSet) (k : KeyManagement) : Bool := s.bits.getLsbD k.index

/-- The set without members. -/
def empty : SchemeSet := ⟨0#7⟩

/-- The set with one more member. -/
def insert (s : SchemeSet) (k : KeyManagement) : SchemeSet := ⟨s.bits ||| BitVec.twoPow 7 k.index⟩

/-- The members of a list. -/
def ofList (ks : List KeyManagement) : SchemeSet := ks.foldl insert empty

/-- A list of schemes stands for the set of its members. -/
instance : Coe (List KeyManagement) SchemeSet := ⟨ofList⟩

/-- Nothing is a member of the empty set. -/
@[simp] theorem contains_empty (k : KeyManagement) : empty.contains k = false := by
  cases k <;> decide

/-- The members after an insertion. -/
@[simp] theorem contains_insert {s : SchemeSet} {k l : KeyManagement} :
    (s.insert l).contains k = true ↔ s.contains k = true ∨ k = l := by
  simp [contains, insert, k.index_lt, KeyManagement.index_inj]

/-- A list and the set of its members have the same members. -/
@[simp] theorem contains_ofList {ks : List KeyManagement} {k : KeyManagement} :
    (ofList ks).contains k = true ↔ k ∈ ks := by
  have general (s : SchemeSet) :
      (ks.foldl insert s).contains k = true ↔ s.contains k = true ∨ k ∈ ks := by
    induction ks generalizing s with
    | nil => simp
    | cons l rest ih => simp [ih, or_assoc]
  exact (general empty).trans (or_iff_right (by simp))

end SchemeSet

/-- What a saved profile says about its security. -/
structure ProfileSecurity where
  /-- The schemes that the profile may be used with. -/
  schemes : SchemeSet
  /-- Whether the profile stores a legacy WEP key. -/
  wepKey : Bool

namespace ProfileSecurity

/-- Whether the profile may be used with a scheme. -/
def allows (security : ProfileSecurity) (scheme : KeyManagement) : Bool :=
  security.schemes.contains scheme

/-- The schemes of the profile, each once and in order. -/
def allowed (security : ProfileSecurity) : List KeyManagement :=
  KeyManagement.all.filter security.allows

/-- The protocol that the profile is for. -/
def protocol (security : ProfileSecurity) : Protocol :=
  if security.allows .sae then .sae
  else if security.allows .wpaPsk then .psk
  else if security.allows .suiteB192 then .suiteB
  else if security.allows .wpaEap || security.allows .ieee8021x then .eap
  else if security.allows .owe then .owe
  else if security.wepKey then .wep
  else .unsecured

end ProfileSecurity

end WifiRoster
