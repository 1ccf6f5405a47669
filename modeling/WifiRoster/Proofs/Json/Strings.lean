import Mathlib.Tactic.Lemma
import WifiRoster.Proofs.Json.Grammar

/-!
# Reading strings

A character is read from each of its texts, whether it stands there as it is, by a letter or by one
or two units, and so are the characters of a string. A string of no interest is passed over even if
its units make up no characters.
-/

namespace WifiRoster.Json

/-- A hexadecimal digit is read in both cases of its letter. -/
lemma HexForm.hexDigit? {value : Nat} {c : Char} (form : HexForm value c) :
    hexDigit? c = some value := by
  obtain ⟨small, written⟩ := form
  have digits : ∀ value < 16, Json.hexDigit? (Nat.digitChar value) = some value ∧
      Json.hexDigit? (Nat.digitChar value).toUpper = some value := by decide
  obtain ⟨lower, upper⟩ := digits value small
  obtain rfl | rfl := written
  · exact lower
  · exact upper

/-- A unit is read from its four digits. -/
lemma UnitForm.readUnit {unit : Nat} {digits : List Char} (form : UnitForm unit digits)
    (rest : List Char) : readUnit (digits ++ rest) = .ok (unit, rest) := by
  cases form with
  | digits hp hq hr hs =>
    simp [Json.readUnit, takeUnit?, hp.hexDigit?, hq.hexDigit?, hr.hexDigit?, hs.hexDigit?]

/-- A letter behind a backslash is read as the character that it stands for. -/
lemma EscapeForm.readEscape {c l : Char} (form : EscapeForm c l) (rest : List Char) :
    readEscape (l :: rest) = .ok (c, rest) := by
  cases form <;> rfl

/-- A letter behind a backslash is passed over alone. -/
lemma EscapeForm.skipEscape {c l : Char} (form : EscapeForm c l) (rest : List Char) :
    skipEscape (l :: rest) = .ok rest := by
  cases form <;> rfl

/-- A character that needs no escape is read as it is. -/
lemma readString_plain {c : Char} (quote : c ≠ '"') (backslash : c ≠ '\\')
    (printed : 0x20 ≤ c.toNat) (rest : List Char) :
    readString (c :: rest) = (readString rest).map fun (cs, rest) => (c :: cs, rest) := by
  rw [readString]
  · simp [Nat.not_lt.2 printed]
  · exact quote
  · exact backslash

/-- An escaped character is read, and then the characters behind it. -/
lemma readString_escape {c : Char} {text rest : List Char}
    (escape : readEscape text = .ok (c, rest)) :
    readString ('\\' :: text) = (readString rest).map fun (cs, rest) => (c :: cs, rest) := by
  rw [readString]
  split
  · next fault failed =>
    rw [escape] at failed
    cases failed
  · next read =>
    rw [escape] at read
    cases read
    rfl

/-- A character is no half of a pair, and beyond the first plane it is less than a million. -/
lemma toNat_bounds (c : Char) : c.toNat < 0xD800 ∨ 0xDFFF < c.toNat ∧ c.toNat < 0x110000 := by
  exact c.valid

/-- A character of the first plane is read from one unit. -/
lemma readEscape_unit {c : Char} {digits : List Char} (form : UnitForm c.toNat digits)
    (rest : List Char) : readEscape ('u' :: (digits ++ rest)) = .ok (c, rest) := by
  have bounds := toNat_bounds c
  have second : isSecondSurrogate c.toNat = false := by simp [isSecondSurrogate]; omega
  have first : isFirstSurrogate c.toNat = false := by simp [isFirstSurrogate]; omega
  simp [readEscape, form.readUnit, first, second]

/-- A character beyond the first plane is read from a pair of units. -/
lemma readEscape_pair {c : Char} {first second : List Char} (beyond : 0x10000 ≤ c.toNat)
    (high : UnitForm (0xD800 + (c.toNat - 0x10000) / 0x400) first)
    (low : UnitForm (0xDC00 + (c.toNat - 0x10000) % 0x400) second) (rest : List Char) :
    readEscape ('u' :: (first ++ '\\' :: 'u' :: (second ++ rest))) = .ok (c, rest) := by
  have bounds := toNat_bounds c
  generalize hoffset : c.toNat - 0x10000 = offset at high low
  have notSecond : isSecondSurrogate (0xD800 + offset / 0x400) = false := by
    simp [isSecondSurrogate]
    omega
  have isFirst : isFirstSurrogate (0xD800 + offset / 0x400) = true := by
    simp [isFirstSurrogate]
    omega
  have isSecond : isSecondSurrogate (0xDC00 + offset % 0x400) = true := by
    simp [isSecondSurrogate]
    omega
  have paired : pairedChar (0xD800 + offset / 0x400) (0xDC00 + offset % 0x400) = c := by
    have sum : 0x10000 + (0xD800 + offset / 0x400 - 0xD800) * 0x400 +
        (0xDC00 + offset % 0x400 - 0xDC00) = c.toNat := by omega
    rw [pairedChar, sum, Char.ofNat_toNat]
  simp [readEscape, high.readUnit, notSecond, isFirst, readSecond, low.readUnit, isSecond, paired]

/-- A character is read from whatever text it has. -/
lemma CharForm.readString {c : Char} {text : List Char} (form : CharForm c text)
    (rest : List Char) :
    readString (text ++ rest) = (readString rest).map fun (cs, rest) => (c :: cs, rest) := by
  cases form with
  | plain quote backslash printed => exact readString_plain quote backslash printed rest
  | letter form => exact readString_escape (form.readEscape rest)
  | unit form => exact readString_escape (readEscape_unit form rest)
  | pair beyond high low =>
    rw [List.append_assoc, List.cons_append]
    exact readString_escape (readEscape_pair beyond high low rest)

/-- The characters of a string are read up to the closing quote. -/
lemma CharsForm.readString {cs text : List Char} (form : CharsForm cs text) (rest : List Char) :
    readString (text ++ '"' :: rest) = .ok (cs, rest) := by
  induction form with
  | nil => rw [List.nil_append, Json.readString]
  | cons form _ ih =>
    rw [List.append_assoc, form.readString, ih]
    rfl

/-- Any string can be passed over. -/
lemma UnreadForm.skipString {text : List Char} (form : UnreadForm text) (rest : List Char) :
    skipString (text ++ '"' :: rest) = .ok rest := by
  have escape {text after : List Char} (skip : skipEscape text = .ok after) :
      Json.skipString ('\\' :: text) = Json.skipString after := by
    rw [Json.skipString]
    split
    · next fault failed =>
      rw [skip] at failed
      cases failed
    · next skipped =>
      rw [skip] at skipped
      cases skipped
      rfl
  induction form with
  | nil => rw [List.nil_append, Json.skipString]
  | @plain c text quote backslash printed _ ih =>
    rw [List.cons_append, Json.skipString]
    · rw [if_neg (Nat.not_lt.2 printed), ih]
    · exact quote
    · exact backslash
  | letter form _ ih =>
    rw [List.cons_append, List.cons_append, escape (form.skipEscape _), ih]
  | @unit _ digits text form _ ih =>
    have skip : Json.skipEscape ('u' :: (digits ++ (text ++ '"' :: rest))) =
        .ok (text ++ '"' :: rest) := by
      rw [Json.skipEscape, form.readUnit]
      rfl
    rw [List.cons_append, List.cons_append, List.append_assoc, escape skip, ih]

end WifiRoster.Json
