import Mathlib.Algebra.Group.Nat.Defs
import Mathlib.Tactic.Lemma

/-!
# The byte order of texts

Texts are ordered letter by letter, and their UTF-8 bytes are ordered byte by byte. The two orders
agree (`bytes_lt_bytes`): of two characters the one with the smaller number has the smaller leading
byte, unless both have the same number of trailing bytes and the same leading byte, and then the
trailing bytes tell them apart (`Lead.lt_or_trailing`). Trailing bytes are digits to the base 64,
highest digit first, so they are ordered like the numbers that they are the digits of
(`trailing_append_lt`).
-/

namespace WifiRoster.Text

/-- The bytes of a text in UTF-8. -/
def bytes (text : String) : List UInt8 := text.toUTF8.data.toList

/-- The bytes for the lowest digits of a number to the base 64, highest digit first. -/
def trailing : Nat → Nat → List UInt8
  | 0, _ => []
  | count + 1, number => .ofNat (number / 64 ^ count % 64 + 128) :: trailing count number

/-- How many trailing bytes the character with a number has, and the byte that leads them. -/
inductive Lead (number : Nat) : Nat → Nat → Prop where
  | one : number < 0x80 → Lead number 0 number
  | two : 0x80 ≤ number → number < 0x800 → Lead number 1 (number / 64 + 192)
  | three : 0x800 ≤ number → number < 0x10000 → Lead number 2 (number / 4096 + 224)
  | four : 0x10000 ≤ number → number < 0x110000 → Lead number 3 (number / 262144 + 240)

/-- The bytes of a text are those of its characters, one after the other. -/
lemma bytes_eq_flatMap (text : String) :
    bytes text = text.toList.flatMap String.utf8EncodeChar := by
  rw [bytes, String.toUTF8, ← String.utf8Encode_toList, List.utf8Encode, List.data_toByteArray]

/-- Numbers that fit into a byte are ordered like their bytes. -/
lemma ofNat_lt_ofNat {m n : Nat} (less : m < n) (small : n < 256) :
    UInt8.ofNat m < UInt8.ofNat n :=
  (UInt8.ofNat_lt_iff_lt (Nat.lt_trans less small) small).2 less

/-- Digits are ordered like numbers, whatever follows them. -/
lemma trailing_append_lt {count m n : Nat} (less : m % 64 ^ count < n % 64 ^ count)
    (rest other : List UInt8) : trailing count m ++ rest < trailing count n ++ other := by
  -- on the number of digits, since the highest one decides unless it is the same
  induction count with
  | zero => omega
  | succ count ih =>
    rw [trailing, trailing, List.cons_append, List.cons_append, List.cons_lt_cons_iff]
    have highest : m / 64 ^ count % 64 ≤ n / 64 ^ count % 64 := by
      rw [← Nat.mod_mul_right_div_self, ← Nat.mod_mul_right_div_self, ← Nat.pow_succ]
      exact Nat.div_le_div_right (Nat.le_of_lt less)
    rcases Nat.lt_or_eq_of_le highest with hlt | heq
    · exact .inl (ofNat_lt_ofNat (by omega) (by omega))
    · rw [Nat.mod_pow_succ, Nat.mod_pow_succ, heq] at less
      rw [heq]
      exact .inr ⟨rfl, ih (by omega)⟩

/-- The leading byte of a character is a byte. -/
lemma Lead.lt_size {number count first : Nat} (lead : Lead number count first) : first < 256 := by
  cases lead <;> omega

/-- Of two numbers the smaller one has the smaller leading byte, or its trailing bytes are the
digits of a smaller number. -/
lemma Lead.lt_or_trailing {m n count size first other : Nat} (less : m < n)
    (lead : Lead m count first) (greater : Lead n size other) :
    first < other ∨ first = other ∧ count = size ∧ m % 64 ^ count < n % 64 ^ size := by
  -- a longer form has the greater leading byte, and of two forms of one length the quotients decide
  cases lead <;> cases greater <;> omega

/-- Each character is written as its leading byte and its trailing bytes. -/
lemma exists_lead (c : Char) : ∃ count first, Lead c.toNat count first ∧
    String.utf8EncodeChar c = .ofNat first :: trailing count c.toNat := by
  have bound : c.toNat < 0x110000 := by
    rcases c.valid with low | high
    · exact Nat.lt_trans low (by decide)
    · exact high.2
  rw [String.utf8EncodeChar.eq_1, Char.toNat_val]
  split
  · next small => exact ⟨_, _, .one (by omega), rfl⟩
  · split
    · next small =>
      refine ⟨_, _, .two (by omega) (by omega), ?_⟩
      rw [Nat.mod_eq_of_lt (by omega : c.toNat / 64 < 32)]
      simp [trailing]
    · split
      · next small =>
        refine ⟨_, _, .three (by omega) (by omega), ?_⟩
        rw [Nat.mod_eq_of_lt (by omega : c.toNat / 4096 < 16)]
        simp [trailing]
      · refine ⟨_, _, .four (by omega) bound, ?_⟩
        rw [Nat.mod_eq_of_lt (by omega : c.toNat / 262144 < 8)]
        simp [trailing]

/-- The bytes of a lesser character come first, whatever stands behind. -/
lemma utf8EncodeChar_append_lt {c d : Char} (less : c < d) (rest other : List UInt8) :
    String.utf8EncodeChar c ++ rest < String.utf8EncodeChar d ++ other := by
  obtain ⟨count, first, lead, written⟩ := exists_lead c
  obtain ⟨size, greater, leads, spelled⟩ := exists_lead d
  rw [written, spelled, List.cons_append, List.cons_append, List.cons_lt_cons_iff]
  rcases lead.lt_or_trailing less leads with hlt | ⟨rfl, rfl, hlt⟩
  · exact .inl (ofNat_lt_ofNat hlt leads.lt_size)
  · exact .inr ⟨rfl, trailing_append_lt hlt rest other⟩

/-- Texts are ordered like their bytes. -/
lemma flatMap_utf8EncodeChar_lt {letters others : List Char} (less : letters < others) :
    letters.flatMap String.utf8EncodeChar < others.flatMap String.utf8EncodeChar := by
  induction less with
  | @nil c rest =>
    obtain ⟨_, _, -, written⟩ := exists_lead c
    rw [List.flatMap_cons, written]
    exact List.nil_lt_cons _ _
  | rel less =>
    rw [List.flatMap_cons, List.flatMap_cons]
    exact utf8EncodeChar_append_lt less _ _
  | cons _ ih =>
    rw [List.flatMap_cons, List.flatMap_cons]
    exact List.append_left_lt ih

/-- The bytes of texts are ordered like the texts. -/
lemma bytes_lt_bytes {text other : String} (less : text < other) : bytes text < bytes other := by
  rw [bytes_eq_flatMap, bytes_eq_flatMap]
  exact flatMap_utf8EncodeChar_lt less

end WifiRoster.Text
