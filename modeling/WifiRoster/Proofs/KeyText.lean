import Mathlib.Data.List.Basic
import WifiRoster.EntryKey

/-!
# The text form of entry keys

Reading a text as a key ends in one of five ways, each of which says how the text is made up
(`Reading`, `reading_ofText`). The separator that counts is the last one. As no tag has a separator
in it, the text form of a key splits into the name and the tag again, whatever the name is made of
(`append_separator_inj`). The main statement, `ofText_exact`, says that reading accepts exactly the
text forms of named keys, each as its own key, and that different keys have different text forms.
-/

namespace WifiRoster.EntryKey

/-- How a text is made up, and what it is read as. -/
inductive Reading (text : String) : Except EntryKeyError EntryKey → Prop where
  | missingLead : ¬ lead.toList <+: text.toList → Reading text (.error (.missingLead text))
  | missingSeparator {body : List Char} :
      text.toList = lead.toList ++ body →
      ',' ∉ body →
      Reading text (.error (.missingSeparator text))
  | emptyName {tag : List Char} :
      text.toList = lead.toList ++ ',' :: tag →
      ',' ∉ tag →
      Reading text (.error .emptyName)
  | badTag {name tag : List Char} :
      text.toList = lead.toList ++ (name ++ ',' :: tag) →
      name ≠ [] →
      ',' ∉ tag →
      (∀ p : Protocol, String.ofList tag ≠ p.tag) →
      Reading text (.error (.badTag (.unknownProtocol (.ofList tag))))
  | key {name : List Char} {p : Protocol} :
      text.toList = lead.toList ++ (name ++ ',' :: p.tag.toList) →
      name ≠ [] →
      Reading text (.ok ⟨.ofList name, p⟩)

/-- No tag has a comma in it. -/
lemma separator_not_mem_tag (p : Protocol) : ',' ∉ p.tag.toList := by
  cases p <;> decide

/-- A text that has a separator splits at the last one in one way only. -/
lemma append_separator_inj {before other after rest : List Char} (hafter : ',' ∉ after)
    (hrest : ',' ∉ rest) (same : before ++ ',' :: after = other ++ ',' :: rest) :
    before = other ∧ after = rest := by
  have first : splitLast? ',' (before ++ ',' :: after) = some (before, after) :=
    splitLast?_eq_some_iff.2 ⟨rfl, hafter⟩
  have second : splitLast? ',' (before ++ ',' :: after) = some (other, rest) :=
    splitLast?_eq_some_iff.2 ⟨same, hrest⟩
  rw [first] at second
  cases second
  exact ⟨rfl, rfl⟩

/-- The letters of a key: those of the lead, of the name and of the tag, with a comma between. -/
lemma toList_text (key : EntryKey) :
    key.text.toList = lead.toList ++ (key.name.toList ++ ',' :: key.protocol.tag.toList) := by
  simp [text]

/-- Whatever a text is read as, it is made up accordingly, and the other way round. -/
lemma reading_ofText (text : String) : Reading text (ofText text) := by
  unfold ofText
  split
  · next absent =>
    apply Reading.missingLead
    rintro ⟨body, hbody⟩
    rw [List.isPrefixOf?_eq_some_iff_append_eq.2 hbody] at absent
    cases absent
  · next body hbody =>
    have made := (List.isPrefixOf?_eq_some_iff_append_eq.1 hbody).symm
    split
    · next unsplit => exact .missingSeparator made (splitLast?_eq_none_iff.1 unsplit)
    · next tag split =>
      obtain ⟨rfl, last⟩ := splitLast?_eq_some_iff.1 split
      exact .emptyName made last
    · next name tag named split =>
      obtain ⟨rfl, last⟩ := splitLast?_eq_some_iff.1 split
      split
      · next p htag =>
        have spelled : tag = p.tag.toList := by
          rw [← Protocol.ofTag_eq_ok_iff.1 htag, String.toList_ofList]
        subst spelled
        exact .key made named
      · next error htag =>
        obtain ⟨rfl, untagged⟩ := Protocol.ofTag_eq_error_iff.1 htag
        exact .badTag made named last untagged

/-- What the text of a key is read as, it gives. -/
lemma Reading.ofText_eq {text : String} {result : Except EntryKeyError EntryKey}
    (reading : Reading text result) : ofText text = result := by
  have body {rest : List Char} (made : text.toList = lead.toList ++ rest) :
      lead.toList.isPrefixOf? text.toList = some rest :=
    List.isPrefixOf?_eq_some_iff_append_eq.2 made.symm
  cases reading with
  | missingLead absent =>
    unfold ofText
    split
    · rfl
    · next rest hrest =>
      exact absurd ⟨rest, List.isPrefixOf?_eq_some_iff_append_eq.1 hrest⟩ absent
  | missingSeparator made unsplit =>
    simp only [ofText, body made, splitLast?_eq_none_iff.2 unsplit]
  | @emptyName tag made last =>
    have split : splitLast? ',' (',' :: tag) = some ([], tag) :=
      splitLast?_eq_some_iff.2 ⟨rfl, last⟩
    simp only [ofText, body made, split]
  | @badTag name tag made named last untagged =>
    have split : splitLast? ',' (name ++ ',' :: tag) = some (name, tag) :=
      splitLast?_eq_some_iff.2 ⟨rfl, last⟩
    have refused := Protocol.ofTag_eq_error_iff.2 ⟨rfl, untagged⟩
    simp only [ofText, body made, split, refused]
  | @key name p made named =>
    have split : splitLast? ',' (name ++ ',' :: p.tag.toList) = some (name, p.tag.toList) :=
      splitLast?_eq_some_iff.2 ⟨rfl, separator_not_mem_tag p⟩
    simp only [ofText, body made, split, String.ofList_toList, Protocol.ofTag_tag]

/-- A text gives exactly what it is read as. -/
lemma ofText_eq_iff {text : String} {result : Except EntryKeyError EntryKey} :
    ofText text = result ↔ Reading text result := by
  constructor
  · rintro rfl
    exact reading_ofText text
  · exact Reading.ofText_eq

/-- What is read as a key is the text form of the key, and the key has a name. -/
lemma reading_ok_iff {text : String} {key : EntryKey} :
    Reading text (.ok key) ↔ text = key.text ∧ key.name ≠ "" := by
  constructor
  · intro reading
    cases reading with
    | @key name p made named =>
      constructor
      · rw [← String.toList_inj, toList_text, made, String.toList_ofList]
      · rwa [ne_eq, ← String.toList_eq_nil_iff, String.toList_ofList]
  · rintro ⟨rfl, named⟩
    rw [ne_eq, ← String.toList_eq_nil_iff] at named
    have reading := Reading.key (toList_text key) named
    rwa [String.ofList_toList] at reading

/-- Different keys have different text forms, also those without a name. -/
lemma text_injective : Function.Injective text := by
  intro key other same
  have lists := congrArg String.toList same
  rw [toList_text, toList_text] at lists
  obtain ⟨hname, htag⟩ := append_separator_inj (separator_not_mem_tag _) (separator_not_mem_tag _)
    (List.append_cancel_left lists)
  obtain ⟨name, p⟩ := key
  obtain ⟨_, q⟩ := other
  obtain rfl := String.toList_inj.1 hname
  obtain rfl := Protocol.tag_inj.1 (String.toList_inj.1 htag)
  rfl

/-- Reading is exact. A text is read as a key exactly when it is the text form of the key and the
key has a name, and different keys have different text forms, named or not. -/
theorem ofText_exact :
    (∀ (text : String) (key : EntryKey),
      ofText text = .ok key ↔ text = key.text ∧ key.name ≠ "") ∧
    Function.Injective text := by
  refine ⟨fun text key => ?_, text_injective⟩
  rw [ofText_eq_iff, reading_ok_iff]

end WifiRoster.EntryKey
