import WifiRoster.Protocol

/-!
# Entry keys

A selectable network is identified by its name and one protocol. The key has a text form,

    StandardWifiEntry:<name>,<tag>

which is read back by splitting at the last comma: no tag has a comma in it, so a name may contain
commas, tags or the leading word of the form without ambiguity.
-/

namespace WifiRoster

/-- The identity of a selectable network. -/
structure EntryKey where
  name : String
  protocol : Protocol
deriving DecidableEq, Repr

/-- Why a text is not the text form of an entry key. -/
inductive EntryKeyError where
  /-- The text does not start with the leading word of the form. -/
  | missingLead (text : String)
  /-- There is no comma behind the leading word. -/
  | missingSeparator (text : String)
  /-- Nothing stands between the leading word and the last comma. -/
  | emptyName
  /-- What stands behind the last comma is no tag. -/
  | badTag (error : TagError)
deriving DecidableEq, Repr

/-- The wording of the error, with the refused text in quotes. -/
def EntryKeyError.message : EntryKeyError → String
  | .missingLead text =>
    "entry key must start with \"StandardWifiEntry:\": " ++ Text.quoted text
  | .missingSeparator text => "entry key has no protocol separator: " ++ Text.quoted text
  | .emptyName => "entry key has an empty network name"
  | .badTag error => error.message

namespace EntryKey

/-- The leading word of the text form. -/
def lead : String := "StandardWifiEntry:"

/-- The text form of a key. -/
def text (key : EntryKey) : String := lead ++ key.name ++ "," ++ key.protocol.tag

/-- The two parts of a text around the last place where `separator` stands. -/
def splitLast? (separator : Char) : List Char → Option (List Char × List Char)
  | [] => none
  | c :: rest =>
    match splitLast? separator rest with
    | some (before, after) => some (c :: before, after)
    | none => if c = separator then some ([], rest) else none

/-- Reads the text form of a key. -/
def ofText (text : String) : Except EntryKeyError EntryKey :=
  match lead.toList.isPrefixOf? text.toList with
  | none => .error (.missingLead text)
  | some body =>
    match splitLast? ',' body with
    | none => .error (.missingSeparator text)
    | some ([], _) => .error .emptyName
    | some (name, tag) =>
      match Protocol.ofTag (.ofList tag) with
      | .ok protocol => .ok ⟨.ofList name, protocol⟩
      | .error error => .error (.badTag error)

/-- Keys are ordered by name, letter by letter, and then by protocol. -/
instance : Ord EntryKey := ⟨compareLex (compareOn name) (compareOn protocol)⟩

instance : Std.TransOrd EntryKey :=
  inferInstanceAs (Std.TransCmp (compareLex (compareOn name) (compareOn protocol)))

instance : Std.LawfulEqOrd EntryKey where
  eq_of_compare {a b} h := by
    obtain ⟨hname, hprotocol⟩ := compareLex_eq_eq.1 h
    have hn : a.name = b.name := Std.LawfulEqOrd.eq_of_compare hname
    have hp : a.protocol = b.protocol := Std.LawfulEqOrd.eq_of_compare hprotocol
    obtain ⟨name, protocol⟩ := a
    cases hn
    cases hp
    rfl

/-- A text does not split exactly when it has no separator. -/
theorem splitLast?_eq_none_iff {separator : Char} {text : List Char} :
    splitLast? separator text = none ↔ separator ∉ text := by
  induction text with
  | nil => simp [splitLast?]
  | cons c rest ih =>
    cases hrest : splitLast? separator rest with
    | some parts =>
      have : ¬ separator ∉ rest := fun h => by simp [ih.2 h] at hrest
      simp [splitLast?, hrest, Classical.not_not.1 this]
    | none =>
      have := ih.1 hrest
      by_cases hc : c = separator
      · simp [splitLast?, hrest, hc]
      · simp [splitLast?, hrest, hc, this, Ne.symm hc]

/-- A text splits at its last separator: the part behind it has none. -/
theorem splitLast?_eq_some_iff {separator : Char} {text before after : List Char} :
    splitLast? separator text = some (before, after) ↔
      text = before ++ separator :: after ∧ separator ∉ after := by
  induction text generalizing before with
  | nil => simp [splitLast?]
  | cons c rest ih =>
    cases hrest : splitLast? separator rest with
    | none =>
      have habsent := splitLast?_eq_none_iff.1 hrest
      cases before with
      | nil =>
        simp only [splitLast?, hrest, List.nil_append, List.cons.injEq]
        constructor
        · intro h
          split at h
          · next hc => cases h; exact ⟨⟨hc, rfl⟩, habsent⟩
          · cases h
        · rintro ⟨⟨rfl, rfl⟩, -⟩
          simp
      | cons d front =>
        simp only [splitLast?, hrest, List.cons_append, List.cons.injEq]
        constructor
        · intro h
          split at h <;> simp at h
        · rintro ⟨⟨-, rfl⟩, -⟩
          simp at habsent
    | some parts =>
      cases before with
      | nil =>
        simp only [splitLast?, hrest, List.nil_append, List.cons.injEq]
        constructor
        · simp
        · rintro ⟨⟨-, rfl⟩, habsent⟩
          simp [splitLast?_eq_none_iff.2 habsent] at hrest
      | cons d front =>
        have := @ih front
        rw [hrest] at this
        simp only [splitLast?, hrest, List.cons_append, List.cons.injEq, Option.some.injEq,
          Prod.mk.injEq, and_assoc] at this ⊢
        rw [← this, Prod.ext_iff]

end EntryKey

end WifiRoster
