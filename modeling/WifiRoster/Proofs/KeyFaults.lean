import Mathlib.Order.Bounds.Basic
import WifiRoster.Proofs.KeyText

/-!
# What is wrong with a text that is no key

Reading a text as a key ends in one of five ways (`Ending`). Which one can be seen on the text: on
the word that it starts with, on the commas behind that word, and on what follows the last of them
(`Ending.Fits`). The main statement, `ofText_ending`, says that one ending and no other fits a text,
and that reading comes to that one. What is reported then is the whole text, or the part of it that
should have been a tag.
-/

namespace WifiRoster.EntryKey

/-- A way in which the reading of a text as a key can end. -/
inductive Ending where
  | missingLead
  | missingSeparator
  | emptyName
  | badTag (tag : String)
  | accepted (key : EntryKey)

/-- What the reading of a text gives when it ends in the given way. -/
def Ending.result (text : String) : Ending → Except EntryKeyError EntryKey
  | missingLead => .error (.missingLead text)
  | missingSeparator => .error (.missingSeparator text)
  | emptyName => .error .emptyName
  | badTag tag => .error (.badTag (.unknownProtocol tag))
  | accepted key => .ok key

/-- The last comma of the letters stands at the given place. -/
def LastComma (letters : List Char) (place : Nat) : Prop :=
  IsGreatest {i | letters[i]? = some ','} place

/-- What a text looks like whose reading ends in the given way. -/
def Ending.Fits (text : String) : Ending → Prop
  | missingLead => ¬ lead.toList <+: text.toList
  | missingSeparator => ∃ rest, text.toList = lead.toList ++ rest ∧ ',' ∉ rest
  | emptyName =>
    ∃ rest, text.toList = lead.toList ++ rest ∧ rest.count ',' = 1 ∧ rest.head? = some ','
  | badTag tag =>
    ∃ rest place, text.toList = lead.toList ++ rest ∧ LastComma rest place ∧ 0 < place ∧
      tag.toList = rest.drop (place + 1) ∧ ∀ p : Protocol, tag ≠ p.tag
  | accepted key =>
    ∃ rest place, text.toList = lead.toList ++ rest ∧ LastComma rest place ∧ 0 < place ∧
      key.name.toList = rest.take place ∧ key.protocol.tag.toList = rest.drop (place + 1)

section Commas

variable {letters : List Char} {place : Nat}

/-- A text falls into what stands before its last comma and behind it. -/
lemma LastComma.split (last : LastComma letters place) :
    letters = letters.take place ++ ',' :: letters.drop (place + 1) ∧
      ',' ∉ letters.drop (place + 1) := by
  obtain ⟨here, greatest⟩ := last
  obtain ⟨bound, stands⟩ := List.getElem?_eq_some_iff.1 here
  refine ⟨?_, fun later => ?_⟩
  · rw [← stands, ← List.drop_eq_getElem_cons bound, List.take_append_drop]
  · obtain ⟨i, hi⟩ := List.mem_iff_getElem?.1 later
    rw [List.getElem?_drop] at hi
    have := greatest hi
    omega

/-- A last comma that is not at the front has something before it. -/
lemma LastComma.take_ne_nil (last : LastComma letters place) (positive : 0 < place) :
    letters.take place ≠ [] := by
  obtain ⟨bound, -⟩ := List.getElem?_eq_some_iff.1 last.1
  exact List.ne_nil_of_length_pos (by simp; omega)

/-- A comma with none behind it is the last one. -/
lemma lastComma_append {before after : List Char} (absent : ',' ∉ after) :
    LastComma (before ++ ',' :: after) before.length := by
  refine ⟨by simp, fun i hi => Nat.le_of_not_lt fun beyond => absent ?_⟩
  obtain ⟨k, rfl⟩ := Nat.exists_eq_add_of_lt beyond
  have behind : (before ++ ',' :: after)[before.length + k + 1]? = some ',' := hi
  rw [List.getElem?_append_right (by omega)] at behind
  exact List.mem_of_getElem? (by simpa [Nat.add_assoc] using behind)

/-- One comma, which comes first, is a comma that no other follows. -/
lemma count_eq_one_and_head_iff :
    letters.count ',' = 1 ∧ letters.head? = some ',' ↔
      ∃ after, letters = ',' :: after ∧ ',' ∉ after := by
  cases letters with
  | nil => simp
  | cons c rest =>
    rw [List.head?_cons, Option.some_inj]
    constructor
    · rintro ⟨once, rfl⟩
      rw [List.count_cons_self, Nat.add_eq_right, List.count_eq_zero] at once
      exact ⟨rest, rfl, once⟩
    · rintro ⟨after, made, absent⟩
      cases made
      rw [List.count_cons_self, List.count_eq_zero.2 absent]
      exact ⟨rfl, rfl⟩

end Commas

/-- Different endings have different results. -/
lemma Ending.result_injective (text : String) : Function.Injective (Ending.result text) := by
  intro ending other same
  cases ending <;> cases other <;> cases same <;> rfl

/-- No text is read as anything but the result of an ending. -/
lemma Reading.exists_ending {text : String} {result : Except EntryKeyError EntryKey}
    (reading : Reading text result) : ∃ ending : Ending, result = ending.result text := by
  cases reading with
  | missingLead => exact ⟨.missingLead, rfl⟩
  | missingSeparator => exact ⟨.missingSeparator, rfl⟩
  | emptyName => exact ⟨.emptyName, rfl⟩
  | badTag => exact ⟨.badTag _, rfl⟩
  | key => exact ⟨.accepted _, rfl⟩

/-- A text looks like an ending exactly when it is made up so that it is read that way. -/
lemma Ending.fits_iff {text : String} {ending : Ending} :
    ending.Fits text ↔ Reading text (ending.result text) := by
  cases ending with
  | missingLead =>
    constructor
    · exact Reading.missingLead
    · intro reading
      cases reading with
      | missingLead absent => exact absent
  | missingSeparator =>
    constructor
    · rintro ⟨rest, made, unsplit⟩
      exact .missingSeparator made unsplit
    · intro reading
      cases reading with
      | missingSeparator made unsplit => exact ⟨_, made, unsplit⟩
  | emptyName =>
    constructor
    · rintro ⟨rest, made, once⟩
      obtain ⟨tag, rfl, last⟩ := count_eq_one_and_head_iff.1 once
      exact .emptyName made last
    · intro reading
      cases reading with
      | emptyName made last => exact ⟨_, made, count_eq_one_and_head_iff.2 ⟨_, rfl, last⟩⟩
  | badTag tag =>
    constructor
    · rintro ⟨rest, place, made, last, positive, follows, untagged⟩
      obtain ⟨split, absent⟩ := last.split
      rw [split, ← follows] at made
      rw [← follows] at absent
      have reading := Reading.badTag made (last.take_ne_nil positive) absent
        (by simpa only [String.ofList_toList] using untagged)
      rwa [String.ofList_toList] at reading
    · intro reading
      cases reading with
      | @badTag name _ made named last untagged =>
        exact ⟨_, name.length, made, lastComma_append last, List.length_pos_iff.2 named, by simp,
          untagged⟩
  | accepted key =>
    obtain ⟨name, p⟩ := key
    constructor
    · rintro ⟨rest, place, made, last, positive, before, follows⟩
      have named := last.take_ne_nil positive
      rw [last.split.1, ← before, ← follows] at made
      rw [← before] at named
      have reading := Reading.key made named
      rwa [String.ofList_toList] at reading
    · intro reading
      cases reading with
      | @key name _ made named =>
        exact ⟨_, name.length, made, lastComma_append (separator_not_mem_tag p),
          List.length_pos_iff.2 named, by simp, by simp⟩

/-- How reading a text as a key ends can be seen on the text. One of the five endings fits it and no
other does, and that is the one that reading comes to, with the whole text in the report if the
leading word or the separator is missing, and with the part behind the last comma if that is no
tag. -/
theorem ofText_ending (text : String) :
    (∃! ending : Ending, ending.Fits text) ∧
      ∀ ending : Ending, ofText text = ending.result text ↔ ending.Fits text := by
  have ends (ending : Ending) : ofText text = ending.result text ↔ ending.Fits text := by
    rw [ofText_eq_iff, Ending.fits_iff]
  refine ⟨?_, ends⟩
  obtain ⟨ending, same⟩ := (reading_ofText text).exists_ending
  refine ⟨ending, (ends ending).1 same, fun other fits => ?_⟩
  exact Ending.result_injective text (((ends other).2 fits).symm.trans same)

/-- A comma alone is a name too, as there is another one behind it. -/
example : ofText "StandardWifiEntry:,,PSK" = .ok ⟨",", .psk⟩ := by decide

end WifiRoster.EntryKey
