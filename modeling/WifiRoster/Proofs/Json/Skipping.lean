import WifiRoster.Proofs.Json.Numbers
import WifiRoster.Proofs.Json.Strings

/-!
# Skipping values

Whatever value stands in a text, it is passed over as a whole. Each bracket and each value take
steps of their own, so that the claim about a value tells how many steps are enough for it and goes
on with those that are left.
-/

namespace WifiRoster.Json

namespace Reader

/-- The colon behind a name is passed over with the blank space before it. -/
lemma colon_eq {before : List Char} (spacing : Spacing before) (rest : List Char) :
    colon (before ++ ':' :: rest) = .ok ((), rest) := by
  rw [colon, bind_eq (look_eq spacing rfl rest)]
  rfl

/-- What begins like a number is passed over as a number. -/
lemma skipScalar_numeric {c : Char} (numeric : c = '-' ∨ c.isDigit = true) :
    skipScalar c = skipNumber := by
  unfold skipScalar
  split
  all_goals simp_all

/-- A value that is no list and no object is skipped in one step. -/
lemma skipOn_scalar {c : Char} {tail rest lead : List Char} (spacing : Spacing lead)
    (solid : isSpace c = false) (noList : c ≠ '[') (noObject : c ≠ '\x7b')
    (skipped : skipScalar c (c :: tail) = .ok ((), rest)) (steps : Nat) (stack : List Bracket) :
    skipOn (steps + 1) .value stack (lead ++ c :: tail) = skipOn steps .separator stack rest := by
  rw [skipOn, bind_eq (look_eq spacing solid tail)]
  simp only
  exact bind_eq skipped

/-- An opening bracket is put on the stack. -/
lemma skipOn_opening {lead : List Char} (spacing : Spacing lead) (bracket : Bracket)
    (rest : List Char) (steps : Nat) (stack : List Bracket) :
    skipOn (steps + 1) .value stack (lead ++ bracket.opening :: rest) =
      skipOn steps .first (bracket :: stack) rest := by
  cases bracket with
  | list | object =>
    rw [skipOn, bind_eq (look_eq spacing rfl rest)]
    rfl

/-- What comes next inside a bracket. -/
def behind (first : Bool) : Expecting := if first then .first else .separator

/-- A closing bracket takes its opening one from the stack. -/
lemma skipOn_closing {after : List Char} (spacing : Spacing after) (bracket : Bracket)
    (rest : List Char) (first : Bool) (steps : Nat) (stack : List Bracket) :
    skipOn (steps + 1) (behind first) (bracket :: stack) (after ++ bracket.closing :: rest) =
      skipOn steps .separator stack rest := by
  have solid : isSpace bracket.closing = false := by cases bracket <;> rfl
  have looked := look_eq spacing solid rest
  cases first with
  | true =>
    show skipOn (steps + 1) .first _ _ = _
    rw [skipOn, bind_eq looked]
    simp only [if_true]
    exact bind_eq rfl
  | false =>
    show skipOn (steps + 1) .separator _ _ = _
    rw [skipOn, bind_eq looked]
    cases bracket with
    | list | object => exact bind_eq rfl

end Reader

/-- A value begins neither with blank space nor with the end of a list. -/
lemma ValueForm.exists_cons {text : List Char} (form : ValueForm .value text) :
    ∃ c tail, text = c :: tail ∧ isSpace c = false ∧ c ≠ ']' := by
  cases form with
  | @word word known =>
    simp only [List.mem_cons, List.not_mem_nil, or_false] at known
    obtain rfl | rfl | rfl := known
    all_goals exact ⟨_, _, rfl, by decide⟩
  | number form =>
    obtain ⟨c, tail, rfl, numeric⟩ := form.exists_cons
    refine ⟨c, tail, rfl, isSpace_numeric numeric, ?_⟩
    rintro rfl
    simp at numeric
  | string _ => exact ⟨_, _, rfl, by decide⟩
  | empty bracket _ | members bracket _ => cases bracket <;> exact ⟨_, _, rfl, by decide⟩

section Members

variable {bracket : Bracket} {lead : List Char}

/-- Whatever stands in front of a value, only blank space is left of it. -/
lemma LeadForm.skipLead_eq (form : LeadForm bracket lead) {before : List Char}
    (spacing : Spacing before) :
    ∃ left, Spacing left ∧
      ∀ rest, Reader.skipLead bracket (before ++ (lead ++ rest)) = .ok ((), left ++ rest) := by
  cases form with
  | list => exact ⟨before, spacing, fun rest => rfl⟩
  | @object key ahead after unread aheadSpacing afterSpacing =>
    refine ⟨after, afterSpacing, fun rest => ?_⟩
    have skipped : Reader.skipStringBody (key ++ '"' :: (ahead ++ ':' :: (after ++ rest))) =
        .ok ((), ahead ++ ':' :: (after ++ rest)) := by
      rw [Reader.skipStringBody, unread.skipString]
      rfl
    rw [Reader.skipLead, Reader.skipKey, List.cons_append,
      Reader.bind_eq (Reader.look_eq spacing rfl _)]
    show (Reader.advance >>= fun _ => _) _ = _
    rw [Reader.advance_bind, List.append_assoc, List.cons_append, List.append_assoc,
      List.cons_append, Reader.bind_eq skipped]
    exact Reader.colon_eq aheadSpacing (after ++ rest)

/-- What stands in brackets begins neither with blank space nor with the closing bracket. -/
lemma LeadForm.exists_cons (form : LeadForm bracket lead) {value : List Char}
    (opens : ValueForm .value value) :
    ∃ c tail, lead ++ value = c :: tail ∧ isSpace c = false ∧ c ≠ bracket.closing := by
  cases form with
  | list => exact opens.exists_cons
  | object _ _ _ => exact ⟨'"', _, rfl, by decide⟩

/-- A step passes over what stands in front of a value inside a bracket. -/
lemma EntryForm.skipOn_eq {first : Bool} {entering before value : List Char}
    (entry : EntryForm first entering) (spacing : Spacing before)
    (form : LeadForm bracket lead) (opens : ValueForm .value value) :
    ∃ left, Spacing left ∧ ∀ rest steps stack,
      Reader.skipOn (steps + 1) (Reader.behind first) (bracket :: stack)
          (entering ++ (before ++ (lead ++ (value ++ rest)))) =
        Reader.skipOn steps .value (bracket :: stack) (left ++ (value ++ rest)) := by
  cases entry with
  | first =>
    -- Looking for the end of the bracket has passed over the blank space already.
    obtain ⟨left, leftSpacing, skipped⟩ := form.skipLead_eq .nil
    refine ⟨left, leftSpacing, fun rest steps stack => ?_⟩
    obtain ⟨c, tail, text, solid, going⟩ := form.exists_cons opens
    have passed := skipped (value ++ rest)
    rw [List.nil_append, ← List.append_assoc, text] at passed
    show Reader.skipOn (steps + 1) .first _ _ = _
    rw [Reader.skipOn, List.nil_append, ← List.append_assoc lead, text, List.cons_append,
      Reader.bind_eq (Reader.look_eq spacing solid _)]
    simp only [if_neg going]
    exact Reader.bind_eq passed
  | next behind =>
    obtain ⟨left, leftSpacing, skipped⟩ := form.skipLead_eq spacing
    refine ⟨left, leftSpacing, fun rest steps stack => ?_⟩
    show Reader.skipOn (steps + 1) .separator _ _ = _
    rw [Reader.skipOn, List.append_assoc, List.singleton_append,
      Reader.bind_eq (Reader.look_eq behind rfl _)]
    show (Reader.advance >>= fun _ => _) _ = _
    rw [Reader.advance_bind]
    exact Reader.bind_eq (skipped (value ++ rest))

end Members

/-- A part of a value can be passed over, and how many steps are enough for it. -/
def Part.Skips (text : List Char) : Part → Prop
  | value => ∃ needed, needed < 2 * text.length ∧
      ∀ steps stack lead rest, Spacing lead → Follows rest →
        Reader.skipOn (steps + needed) .value stack (lead ++ (text ++ rest)) =
          Reader.skipOn steps .separator stack rest
  | members bracket => ∃ needed, needed < 2 * text.length + 2 ∧
      ∀ steps stack rest first lead, EntryForm first lead →
        Reader.skipOn (steps + needed) (Reader.behind first) (bracket :: stack)
            (lead ++ (text ++ bracket.closing :: rest)) =
          Reader.skipOn steps .separator stack rest

/-- A value without brackets is passed over in one step. -/
lemma skips_scalar {c : Char} {tail : List Char} (solid : isSpace c = false) (noList : c ≠ '[')
    (noObject : c ≠ '\x7b')
    (skipped : ∀ rest, Follows rest → Reader.skipScalar c (c :: (tail ++ rest)) = .ok ((), rest)) :
    Part.value.Skips (c :: tail) := by
  refine ⟨1, by simp; omega, fun steps stack lead rest spacing follows => ?_⟩
  exact Reader.skipOn_scalar spacing solid noList noObject (skipped rest follows) steps stack

/-- Every value can be passed over, and so can be the members of every bracket. -/
lemma ValueForm.skips {part : Part} {text : List Char} (form : ValueForm part text) :
    part.Skips text := by
  -- Each part is followed by the steps that it does not need, so that parts go on after each other.
  induction form with
  | word known =>
    simp only [List.mem_cons, List.not_mem_nil, or_false] at known
    obtain rfl | rfl | rfl := known
    all_goals exact skips_scalar rfl (by decide) (by decide) fun rest _ => Reader.word_eq _ rest
  | number form =>
    have read {rest : List Char} (follows : Follows rest) := form.literal_eq follows
    obtain ⟨c, tail, rfl, numeric⟩ := form.exists_cons
    have noBracket : c ≠ '[' ∧ c ≠ '\x7b' := by
      constructor
      all_goals
        rintro rfl
        simp at numeric
    refine skips_scalar (isSpace_numeric numeric) noBracket.1 noBracket.2 fun rest follows => ?_
    rw [Reader.skipScalar_numeric numeric, Reader.skipNumber, ← List.cons_append, read follows]
  | string unread =>
    refine skips_scalar rfl (by decide) (by decide) fun rest _ => ?_
    rw [List.append_assoc]
    show (Reader.advance >>= fun _ => Reader.skipStringBody) _ = _
    rw [Reader.advance_bind, Reader.skipStringBody, List.singleton_append,
      unread.skipString]
    rfl
  | @empty bracket text inside =>
    refine ⟨2, by simp, fun steps stack lead rest spacing _ => ?_⟩
    rw [List.cons_append, List.append_assoc, List.singleton_append, Reader.skipOn_opening spacing]
    exact Reader.skipOn_closing inside bracket rest true steps stack
  | @members bracket text _ ih =>
    obtain ⟨needed, bound, passes⟩ := ih
    refine ⟨needed + 1, by simp; omega, fun steps stack lead rest spacing _ => ?_⟩
    rw [List.cons_append, List.append_assoc, List.singleton_append, ← Nat.add_assoc,
      Reader.skipOn_opening spacing]
    exact passes steps stack rest true [] .first
  | @last bracket before lead value after spacing form written behind ih =>
    obtain ⟨needed, bound, passes⟩ := ih
    refine ⟨1 + needed + 1, by simp; omega, fun steps stack rest first entering entry => ?_⟩
    obtain ⟨left, leftSpacing, entered⟩ := entry.skipOn_eq spacing form written
    have follows : Follows (after ++ bracket.closing :: rest) :=
      behind.follows (follows_cons (by cases bracket <;> decide) rest)
    rw [List.append_assoc, List.append_assoc, List.append_assoc, ← Nat.add_assoc, ← Nat.add_assoc,
      entered, passes _ _ _ _ leftSpacing follows]
    exact Reader.skipOn_closing behind bracket rest false steps stack
  | @more bracket before lead value after others spacing form written behind _ ihv ihm =>
    obtain ⟨needed, bound, passes⟩ := ihv
    obtain ⟨more, moreBound, morePasses⟩ := ihm
    refine ⟨more + needed + 1, by simp; omega, fun steps stack rest first entering entry => ?_⟩
    obtain ⟨left, leftSpacing, entered⟩ := entry.skipOn_eq spacing form written
    have follows : Follows (after ++ ',' :: (others ++ bracket.closing :: rest)) :=
      behind.follows (follows_cons (by decide) _)
    have others := morePasses steps stack rest false _ (.next behind)
    rw [List.append_assoc, List.singleton_append] at others
    rw [List.append_assoc, List.append_assoc, List.append_assoc, List.append_assoc,
      ← Nat.add_assoc, ← Nat.add_assoc, entered]
    exact (passes _ _ _ _ leftSpacing follows).trans others

/-- A value of no interest is taken off the text. -/
lemma ValueForm.takes {text : List Char} (form : ValueForm .value text) :
    Reader.skipValue.Takes text () := by
  intro lead rest spacing follows
  obtain ⟨needed, bound, passes⟩ := form.skips
  obtain ⟨spare, steps⟩ : ∃ spare,
      2 * (lead ++ (text ++ rest)).length + 2 = spare + 1 + needed :=
    ⟨2 * (lead ++ (text ++ rest)).length + 1 - needed, by simp; omega⟩
  rw [Reader.skipValue, steps, passes _ _ _ _ spacing follows]
  rfl

end WifiRoster.Json
