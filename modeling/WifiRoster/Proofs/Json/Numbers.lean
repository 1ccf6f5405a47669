import WifiRoster.Json.Values
import WifiRoster.Proofs.Json.Reading

/-!
# Reading numbers

A number is read as it is written (`LiteralForm.literal_eq`): each part ends where the next one
begins, and nothing that may follow a value goes on with a number. An integer that fits into 32 bits
is read from its decimal.
-/

namespace WifiRoster.Json

section Digits

/-- The letter of a digit is a digit with the value that it is for. -/
lemma digitChar_isDigit {digit : Nat} (small : digit < 10) :
    (Nat.digitChar digit).isDigit = true ∧ digitValue (Nat.digitChar digit) = digit := by
  have digits : ∀ digit < 10,
      (Nat.digitChar digit).isDigit = true ∧ digitValue (Nat.digitChar digit) = digit := by decide
  exact digits digit small

variable {digits : List Nat} {text rest : List Char}

/-- Nothing but digits stands in the text of a run of digits. -/
lemma DigitsForm.isDigit (form : DigitsForm digits text) : ∀ c ∈ text, c.isDigit = true := by
  cases form with
  | digits _ small =>
    intro c hc
    obtain ⟨digit, hdigit, rfl⟩ := List.mem_map.1 hc
    exact (digitChar_isDigit (small digit hdigit)).1

/-- The letters of a run of digits have the values that it is for. -/
lemma DigitsForm.map_digitValue (form : DigitsForm digits text) :
    text.map digitValue = digits := by
  cases form with
  | digits _ small =>
    rw [List.map_map]
    exact (List.map_congr_left fun digit hdigit =>
      (digitChar_isDigit (small digit hdigit)).2).trans (List.map_id digits)

/-- A run of digits begins with a digit. -/
lemma DigitsForm.exists_cons (form : DigitsForm digits text) :
    ∃ c tail, text = c :: tail ∧ c.isDigit = true := by
  have all := form.isDigit
  cases form with
  | digits some _ =>
    obtain ⟨digit, tail, rfl⟩ := List.exists_cons_of_ne_nil some
    exact ⟨_, _, rfl, all _ (.head _)⟩

/-- The whole part of a number begins with a digit. -/
lemma WholeForm.exists_cons (form : WholeForm digits text) :
    ∃ c tail, text = c :: tail ∧ c.isDigit = true := by
  cases form with
  | whole form _ => exact form.exists_cons

/-- The reader takes all the digits there are. -/
lemma DigitsForm.digits_eq (form : DigitsForm digits text)
    (bound : ∀ c ∈ rest.head?, c.isDigit = false) :
    Reader.digits (text ++ rest) = .ok (digits, rest) := by
  have inside := form.isDigit
  have taken : (text ++ rest).takeWhile Char.isDigit = text ∧
      (text ++ rest).dropWhile Char.isDigit = rest := by
    rw [List.takeWhile_append_of_pos inside, List.dropWhile_append_of_pos inside]
    cases rest with
    | nil => simp
    | cons c rest => simp [bound c rfl]
  rw [Reader.digits, taken.1, taken.2, form.map_digitValue]

/-- The reader that asks for a digit reads what is there as well. -/
lemma DigitsForm.someDigits_eq (form : DigitsForm digits text)
    (bound : ∀ c ∈ rest.head?, c.isDigit = false) :
    Reader.someDigits (text ++ rest) = .ok (digits, rest) := by
  have read := form.digits_eq bound
  obtain ⟨c, tail, rfl, digit⟩ := form.exists_cons
  rw [Reader.someDigits, Reader.bind_eq rfl]
  show (if c.isDigit then Reader.digits else Reader.fail .badNumber) _ = _
  rw [if_pos digit]
  exact read

/-- The whole part is read as it is written, up to what is no digit. -/
lemma WholeForm.wholePart_eq (form : WholeForm digits text)
    (bound : ∀ c ∈ rest.head?, c.isDigit = false) :
    Reader.wholePart (text ++ rest) = .ok (digits, rest) := by
  cases form with
  | whole form lead =>
    rw [Reader.wholePart, Reader.bind_eq (form.someDigits_eq bound)]
    split
    · cases lead rfl
    · rfl

end Digits

section Parts

variable {fraction : List Nat} {exponent : Option Int} {text rest : List Char}

/-- Neither a digit nor a point stands at the front of an exponent, or behind where there is none.
-/
lemma ExponentForm.bound (form : ExponentForm exponent text) (follows : Follows rest) :
    ∀ c ∈ (text ++ rest).head?, c.isDigit = false ∧ c ≠ '.' := by
  cases form with
  | none => exact fun c hc => ⟨(follows c hc).1, (follows c hc).2.1⟩
  | unsigned hmark _ | positive hmark _ | negative hmark _ =>
    rintro _ ⟨⟩
    simp only [List.mem_cons, List.not_mem_nil, or_false] at hmark
    obtain rfl | rfl := hmark
    all_goals decide

/-- No digit stands at the front of a fraction, or behind where there is none. -/
lemma FractionForm.bound (form : FractionForm fraction text)
    (bound : ∀ c ∈ rest.head?, c.isDigit = false) :
    ∀ c ∈ (text ++ rest).head?, c.isDigit = false := by
  cases form with
  | none => exact bound
  | some _ =>
    rintro _ ⟨⟩
    rfl

/-- The fraction is read as it is written, or as missing where no point stands. -/
lemma FractionForm.fractionPart_eq (form : FractionForm fraction text)
    (bound : ∀ c ∈ rest.head?, c.isDigit = false ∧ c ≠ '.') :
    Reader.fractionPart (text ++ rest) = .ok (fraction, rest) := by
  cases form with
  | none =>
    rw [List.nil_append, Reader.fractionPart, Reader.bind_eq rfl]
    cases rest with
    | nil => rfl
    | cons c rest =>
      simp [(bound c rfl).2]
      rfl
  | some form =>
    rw [Reader.fractionPart, Reader.bind_eq rfl]
    show (Reader.advance >>= fun _ => Reader.someDigits) _ = _
    rw [List.cons_append, Reader.advance_bind]
    exact form.someDigits_eq fun c hc => (bound c hc).1

/-- In front of a digit there is no sign to read. -/
lemma exponentSign_eq {digits : List Nat} (form : DigitsForm digits text) :
    Reader.exponentSign (text ++ rest) = .ok (false, text ++ rest) := by
  obtain ⟨c, tail, rfl, digit⟩ := form.exists_cons
  have minus : c ≠ '-' := by
    rintro rfl
    cases digit
  have plus : c ≠ '+' := by
    rintro rfl
    cases digit
  rw [Reader.exponentSign, Reader.bind_eq rfl]
  simp [minus, plus]
  rfl

/-- Behind its mark, an exponent is read with its sign. -/
lemma exponentPart_mark {mark : Char} (hmark : mark ∈ ['e', 'E']) {signed : List Char}
    {negative : Bool} {digits : List Nat} (form : DigitsForm digits text)
    (sign : Reader.exponentSign signed = .ok (negative, text ++ rest))
    (bound : ∀ c ∈ rest.head?, c.isDigit = false) :
    Reader.exponentPart (mark :: signed) =
      .ok (some (if negative then -(digitsValue digits : Int) else digitsValue digits), rest) := by
  have behind : (do
      let negative ← Reader.exponentSign
      let size := digitsValue (← Reader.someDigits)
      return some (if negative then -size else size) : Reader (Option Int)) signed =
        .ok (some (if negative then -(digitsValue digits : Int) else digitsValue digits), rest) := by
    rw [Reader.bind_eq sign, Reader.bind_eq (form.someDigits_eq bound)]
    rfl
  simp only [List.mem_cons, List.not_mem_nil, or_false] at hmark
  obtain rfl | rfl := hmark
  · exact behind
  · exact behind

/-- The exponent is read as it is written, or as missing where no mark stands. -/
lemma ExponentForm.exponentPart_eq (form : ExponentForm exponent text) (follows : Follows rest) :
    Reader.exponentPart (text ++ rest) = .ok (exponent, rest) := by
  have bound : ∀ c ∈ rest.head?, c.isDigit = false := fun c hc => (follows c hc).1
  cases form with
  | none =>
    rw [List.nil_append, Reader.exponentPart, Reader.bind_eq rfl]
    cases rest with
    | nil => rfl
    | cons c rest =>
      obtain ⟨-, -, lower, upper⟩ := follows c rfl
      simp [lower, upper]
      rfl
  | unsigned hmark form => exact exponentPart_mark hmark form (exponentSign_eq form) bound
  | @positive mark digits text hmark form =>
    have sign : Reader.exponentSign ('+' :: (text ++ rest)) = .ok (false, text ++ rest) := rfl
    exact exponentPart_mark hmark form sign bound
  | @negative mark digits text hmark form =>
    have sign : Reader.exponentSign ('-' :: (text ++ rest)) = .ok (true, text ++ rest) := rfl
    exact exponentPart_mark hmark form sign bound

/-- Behind the sign of a number, its parts are read one after the other. -/
lemma literal_parts {whole fraction : List Nat} {first second third : List Char}
    (hwhole : WholeForm whole first) (hfraction : FractionForm fraction second)
    (hexponent : ExponentForm exponent third) (follows : Follows rest) (negative : Bool) :
    (do
      let whole ← Reader.wholePart
      let fraction ← Reader.fractionPart
      let exponent ← Reader.exponentPart
      return ⟨negative, whole, fraction, exponent⟩ : Reader Literal)
        (first ++ (second ++ third) ++ rest) =
      .ok (⟨negative, whole, fraction, exponent⟩, rest) := by
  have behindFraction := hexponent.bound follows
  have behindWhole := hfraction.bound fun c hc => (behindFraction c hc).1
  rw [List.append_assoc, List.append_assoc, Reader.bind_eq (hwhole.wholePart_eq behindWhole),
    Reader.bind_eq (hfraction.fractionPart_eq behindFraction),
    Reader.bind_eq (hexponent.exponentPart_eq follows)]
  rfl

/-- A number is read as it is written. -/
lemma LiteralForm.literal_eq {literal : Literal} (form : LiteralForm literal text)
    (follows : Follows rest) : Reader.literal (text ++ rest) = .ok (literal, rest) := by
  cases form with
  | @plain whole fraction exponent first second third hwhole hfraction hexponent =>
    have read := literal_parts hwhole hfraction hexponent follows false
    obtain ⟨c, tail, rfl, digit⟩ := hwhole.exists_cons
    have unsigned : (some c == some '-') = false := by
      rw [beq_eq_false_iff_ne]
      rintro ⟨⟩
      cases digit
    rw [Reader.literal, Reader.bind_eq rfl]
    simp only [List.cons_append, List.head?_cons, unsigned]
    exact read
  | negative hwhole hfraction hexponent =>
    exact literal_parts hwhole hfraction hexponent follows true

end Parts

section Integers

/-- A number does not begin with blank space. -/
lemma isSpace_numeric {c : Char} (numeric : c = '-' ∨ c.isDigit = true) : isSpace c = false := by
  rw [Bool.eq_false_iff, ne_eq, isSpace_iff]
  intro space
  simp only [List.mem_cons, List.not_mem_nil, or_false] at space
  obtain rfl | rfl | rfl | rfl := space
  all_goals simp at numeric

/-- A number begins with a sign or a digit. -/
lemma LiteralForm.exists_cons {literal : Literal} {text : List Char}
    (form : LiteralForm literal text) :
    ∃ c tail, text = c :: tail ∧ (c = '-' ∨ c.isDigit = true) := by
  cases form with
  | plain whole _ _ =>
    obtain ⟨c, tail, rfl, digit⟩ := whole.exists_cons
    exact ⟨c, _, rfl, .inr digit⟩
  | negative _ _ _ => exact ⟨_, _, rfl, .inl rfl⟩

/-- An integer is a number without fraction and exponent; one of 64 bits counts as an integer. -/
lemma IntegerForm.exists_literalForm {n : Int} {text : List Char} (form : IntegerForm n text)
    (least : Int64.minValue.toInt ≤ n) (greatest : n < UInt64.size) :
    ∃ literal, LiteralForm literal text ∧ literal.integer? = some n := by
  cases form with
  | natural whole =>
    have literal := LiteralForm.plain whole .none .none
    rw [List.append_nil, List.append_nil] at literal
    exact ⟨_, literal, if_pos (Int.ofNat_lt.1 greatest)⟩
  | negative whole nonzero =>
    have literal := LiteralForm.negative whole .none .none
    rw [List.append_nil, List.append_nil] at literal
    exact ⟨_, literal, if_pos ⟨Nat.pos_of_ne_zero nonzero, least⟩⟩

/-- An integer of 32 bits is read from its text. -/
lemma IntegerForm.takes {n : Int32} {text : List Char} (form : IntegerForm n.toInt text) :
    Reader.int32.Takes text n := by
  intro lead rest spacing follows
  have least := n.minValue_le_toInt
  have greatest := n.toInt_le
  obtain ⟨literal, form, integer⟩ := form.exists_literalForm (Int.le_trans (by decide) least)
    (Int.lt_of_le_of_lt greatest (by decide))
  have read := form.literal_eq follows
  obtain ⟨c, tail, rfl, numeric⟩ := form.exists_cons
  rw [Reader.int32, List.cons_append,
    Reader.bind_eq (Reader.look_eq spacing (isSpace_numeric numeric) _)]
  simp only [Bool.or_eq_true, beq_iff_eq, numeric, if_true]
  rw [← List.cons_append, Reader.number, bind_assoc, Reader.bind_eq read, Literal.value, integer]
  show (Reader.ofExcept (.ok (.integer n.toInt)) >>= fun number =>
    Reader.ofExcept (Reader.toInt32 number)) rest = _
  rw [Reader.bind_eq rfl, Reader.toInt32, if_pos ⟨least, greatest⟩, Int32.ofInt_toInt]
  rfl

end Integers

end WifiRoster.Json
