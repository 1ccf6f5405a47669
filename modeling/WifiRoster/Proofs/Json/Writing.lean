import Mathlib.Data.List.Basic
import WifiRoster.Json.Writer
import WifiRoster.Proofs.Json.Grammar

/-!
# Written values

What is written for a value is one of its texts, namely one without any blank space.
-/

namespace WifiRoster.Json

section Strings

/-- A digit in its lower case is one of its texts. -/
lemma hexForm_digitChar (value : Nat) (small : value < 16) : HexForm value (Nat.digitChar value) :=
  ⟨small, .inl rfl⟩

/-- A written character is one of its texts, escaped or as it is. -/
lemma charForm_stringChar (c : Char) : CharForm c (Writer.stringChar c) := by
  unfold Writer.stringChar
  split
  · exact .letter .quote
  · exact .letter .backslash
  · exact .letter .backspace
  · exact .letter .formFeed
  · exact .letter .newline
  · exact .letter .carriageReturn
  · exact .letter .tab
  · next quote backslash _ _ _ _ _ =>
    split
    · next control =>
      have zero : HexForm 0 '0' := hexForm_digitChar 0 (by decide)
      have unit := UnitForm.digits zero zero (hexForm_digitChar (c.toNat / 16) (by omega))
        (hexForm_digitChar (c.toNat % 16) (by omega))
      have value : ((0 * 16 + 0) * 16 + c.toNat / 16) * 16 + c.toNat % 16 = c.toNat := by omega
      rw [value] at unit
      exact .unit unit
    · next printed => exact .plain quote backslash (Nat.not_lt.1 printed)

/-- A written string is one of its texts. -/
lemma stringForm_string (value : String) : StringForm value (Writer.string value) := by
  have chars (cs : List Char) : CharsForm cs (cs.flatMap Writer.stringChar) := by
    induction cs with
    | nil => exact .nil
    | cons c cs ih => exact .cons (charForm_stringChar c) ih
  exact .quoted (chars value.toList)

end Strings

section Numbers

/-- The decimal of a number is the whole part of a number with that value. -/
lemma exists_wholeForm (n : Nat) :
    ∃ digits, WholeForm digits (Nat.toDigits 10 n) ∧ digitsValue digits = n := by
  -- The digits of a number are those of its tenth and one more.
  induction n using Nat.strongRecOn with
  | ind n ih =>
    by_cases small : n < 10
    · refine ⟨[n], .whole ?_ fun zero => ?_, by simp [digitsValue]⟩
      · rw [Nat.toDigits_of_lt_base small]
        exact .digits (List.cons_ne_nil _ _) (by simpa using small)
      · simpa using zero
    · obtain ⟨front, form, value⟩ := ih (n / 10) (by omega)
      rw [Nat.toDigits_of_base_le (by decide) (by omega)]
      generalize Nat.toDigits 10 (n / 10) = text at form
      cases form with
      | whole form lead =>
        cases form with
        | digits some hsmall =>
          refine ⟨front ++ [n % 10], .whole ?_ ?_, ?_⟩
          · rw [show front.map Nat.digitChar ++ [Nat.digitChar (n % 10)] =
              (front ++ [n % 10]).map Nat.digitChar by simp]
            refine .digits (by simp) ?_
            intro digit hdigit
            rcases List.mem_append.1 hdigit with hdigit | hdigit
            · exact hsmall digit hdigit
            · simp at hdigit; omega
          · intro zero
            rw [List.head?_append_of_ne_nil _ some] at zero
            rw [lead zero] at value
            simp [digitsValue] at value
            omega
          · rw [digitsValue, List.foldl_append, ← digitsValue, value]
            simp
            omega

/-- A written integer is one of its texts. -/
lemma integerForm_integer (n : Int) : IntegerForm n (Writer.integer n) := by
  cases n with
  | ofNat n =>
    obtain ⟨digits, form, value⟩ := exists_wholeForm n
    have natural := IntegerForm.natural form
    rw [value, ← Nat.toList_repr] at natural
    exact natural
  | negSucc n =>
    obtain ⟨digits, form, value⟩ := exists_wholeForm (n + 1)
    have negative := IntegerForm.negative form (by omega)
    rw [value, ← Nat.toList_repr] at negative
    have written : Writer.integer (.negSucc n) = '-' :: (Nat.repr (n + 1)).toList := by
      rw [Writer.integer, show toString (Int.negSucc n) = "-" ++ Nat.repr (n + 1) from rfl]
      simp
    rw [written]
    exact negative

end Numbers

section Values

/-- A written truth value is its word. -/
lemma booleanForm_boolean (value : Bool) : BooleanForm value (Writer.boolean value) := by
  cases value with
  | true => exact .true
  | false => exact .false

/-- What may be null is written as null or as what is there. -/
lemma optionalForm_optional {α : Type} {form : α → List Char → Prop} {write : α → List Char}
    (written : ∀ a, form a (write a)) (value : Option α) :
    OptionalForm form value (Writer.optional write value) := by
  cases value with
  | some a => exact .some (written a)
  | none => exact .none

end Values

section Brackets

variable {α : Type} {form : α → List Char → Prop} {write : α → List Char}

/-- Written items with commas between them. -/
lemma seriesForm_intercalate (written : ∀ a, form a (write a)) (bracket : Bracket) (as : List α) :
    SeriesForm form bracket as
      (bracket.opening :: ([','].intercalate (as.map write) ++ [bracket.closing])) := by
  have items (a : α) (as : List α) :
      ItemsForm form (a :: as) ([','].intercalate ((a :: as).map write)) := by
    induction as generalizing a with
    | nil =>
      have last := ItemsForm.last .nil (written a) .nil
      simpa using last
    | cons b as ih =>
      have more := ItemsForm.more .nil (written a) .nil (ih b)
      simpa using more
  cases as with
  | nil => exact .empty .nil
  | cons a as => exact .items (items a as)

/-- A written list is one of its texts. -/
lemma seriesForm_list (written : ∀ a, form a (write a)) (as : List α) :
    SeriesForm form .list as (Writer.list (as.map write)) :=
  seriesForm_intercalate written .list as

/-- A written object is one of the texts of its members. -/
lemma seriesForm_object (members : List (String × List Char)) :
    SeriesForm MemberForm .object members (Writer.object members) := by
  refine seriesForm_intercalate (fun member => ?_) .object members
  exact .member (stringForm_string member.1) .nil .nil

/-- The text of a value is a whole text, with no blank space around. -/
lemma textForm_ofList {a : α} {text : List Char} (written : form a text) :
    TextForm form a (String.ofList text).toList := by
  have spaced := TextForm.spaced .nil written .nil
  rwa [List.append_nil, ← String.toList_ofList (l := text)] at spaced

end Brackets

end WifiRoster.Json
