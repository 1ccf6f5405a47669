/-!
# Classes of characters

A class of characters is given by closed ranges of code points in increasing order. The main
statement, `CharClass.contains_iff`, says that the search, which stops at the first range beyond
the character, misses none.
-/

namespace WifiRoster.Text

/-- Whether no range is empty and each one ends before the next one starts. -/
def increasing : List (Nat × Nat) → Bool
  | [] => true
  | [range] => range.1 ≤ range.2
  | range :: next :: rest =>
    range.1 ≤ range.2 && range.2 < next.1 && increasing (next :: rest)

/-- A class of characters. -/
structure CharClass where
  /-- Closed ranges of code points. -/
  ranges : List (Nat × Nat)
  inOrder : increasing ranges = true := by decide +kernel

/-- Whether a character belongs to a class. -/
def CharClass.contains (cls : CharClass) (c : Char) : Bool :=
  (cls.ranges.takeWhile (·.1 ≤ c.toNat)).any (c.toNat ≤ ·.2)

/-- What stands behind a range in increasing order starts beyond it. -/
theorem lt_of_increasing {range : Nat × Nat} {rest : List (Nat × Nat)}
    (h : increasing (range :: rest) = true) : ∀ other ∈ rest, range.1 < other.1 := by
  induction rest generalizing range with
  | nil => simp
  | cons next rest ih =>
    simp only [increasing, Bool.and_eq_true, decide_eq_true_eq] at h
    obtain ⟨⟨hrange, hnext⟩, hrest⟩ := h
    intro other hother
    rcases List.mem_cons.1 hother with rfl | hmem
    · omega
    · have := ih hrest other hmem
      omega

/-- The search finds a number exactly when one of the ranges holds it. -/
theorem any_takeWhile_iff {ranges : List (Nat × Nat)} (h : increasing ranges = true) (n : Nat) :
    (ranges.takeWhile (·.1 ≤ n)).any (n ≤ ·.2) = true ↔
      ∃ range ∈ ranges, range.1 ≤ n ∧ n ≤ range.2 := by
  induction ranges with
  | nil => simp
  | cons range rest ih =>
    have hrest : increasing rest = true := by
      cases rest with
      | nil => rfl
      | cons next rest => simp_all [increasing]
    by_cases hstart : range.1 ≤ n
    · simp [hstart, ih hrest]
    · have hbeyond := lt_of_increasing h
      simp only [List.takeWhile_cons, hstart, decide_false, Bool.false_eq_true, if_false,
        List.any_nil, List.mem_cons, false_iff]
      rintro ⟨other, rfl | hother, hlow, -⟩
      · exact hstart hlow
      · have := hbeyond other hother
        omega

/-- A character belongs to a class exactly when one of the ranges holds its code point. -/
theorem CharClass.contains_iff {cls : CharClass} {c : Char} :
    cls.contains c = true ↔ ∃ range ∈ cls.ranges, range.1 ≤ c.toNat ∧ c.toNat ≤ range.2 :=
  any_takeWhile_iff cls.inOrder c.toNat

end WifiRoster.Text
