import WifiRoster.Json.Lists
import WifiRoster.Proofs.Json.Numbers
import WifiRoster.Proofs.Json.Strings

/-!
# Reading values of known types

A reader of a type takes every text of a value of this type for that value: strings, alternatives by
their names, truth values, strings that may be null, and lists of anything that can be read. A list
is read with a limit on its items. As every item takes up at least one character, the length of the
text is enough of a limit.
-/

namespace WifiRoster.Json

section Strings

variable {value : String} {text : List Char}

/-- Behind its opening quote, a string is read to the end. -/
lemma StringForm.stringBody_eq {rest : List Char} (form : StringForm value ('"' :: text)) :
    Reader.stringBody (text ++ rest) = .ok (value, rest) := by
  cases form with
  | quoted chars =>
    rw [List.append_assoc, Reader.stringBody, List.singleton_append, chars.readString]
    show Except.ok (String.ofList value.toList, rest) = _
    rw [String.ofList_toList]

/-- A string begins with a quote. -/
lemma StringForm.exists_cons (form : StringForm value text) : ∃ tail, text = '"' :: tail := by
  cases form with
  | quoted _ => exact ⟨_, rfl⟩

/-- A string is read from each of its texts. -/
lemma StringForm.takes (form : StringForm value text) : Reader.string.Takes text value := by
  intro lead rest spacing _
  obtain ⟨tail, rfl⟩ := form.exists_cons
  rw [Reader.string, List.cons_append, Reader.bind_eq (Reader.look_eq spacing rfl _)]
  exact form.stringBody_eq

/-- One of several alternatives is read by its name; there are no other names. -/
lemma StringForm.variant_eq {α : Type} (known : List (String × α)) (form : StringForm value text)
    {lead : List Char} (spacing : Spacing lead) (rest : List Char) :
    Reader.variant known (lead ++ (text ++ rest)) =
      match known.lookup value with
      | some a => .ok (a, rest)
      | none => .error (.unknownVariant value (known.map Prod.fst)) := by
  obtain ⟨tail, rfl⟩ := form.exists_cons
  rw [Reader.variant, List.cons_append, Reader.bind_eq (Reader.look_eq spacing rfl _)]
  show Reader.variantName known (tail ++ rest) = _
  rw [Reader.variantName, Reader.bind_eq form.stringBody_eq]
  cases known.lookup value with
  | some a => rfl
  | none => rfl

/-- The alternative of a name is read from each text of the name. -/
lemma StringForm.variant_takes {α : Type} {known : List (String × α)} {a : α}
    (form : StringForm value text) (names : known.lookup value = some a) :
    (Reader.variant known).Takes text a := by
  intro lead rest spacing _
  rw [form.variant_eq known spacing rest, names]

/-- A truth value is read from its word. -/
lemma BooleanForm.takes {value : Bool} (form : BooleanForm value text) :
    Reader.boolean.Takes text value := by
  intro lead rest spacing _
  cases form with
  | true =>
    rw [Reader.boolean, show "true".toList = 't' :: "rue".toList from rfl, List.cons_append,
      Reader.bind_eq (Reader.look_eq spacing rfl _)]
    exact Reader.bind_eq (Reader.word_eq "true".toList rest)
  | false =>
    rw [Reader.boolean, show "false".toList = 'f' :: "alse".toList from rfl, List.cons_append,
      Reader.bind_eq (Reader.look_eq spacing rfl _)]
    exact Reader.bind_eq (Reader.word_eq "false".toList rest)

/-- A string that may be null. -/
lemma OptionalForm.takes {value : Option String} (form : OptionalForm StringForm value text) :
    (Reader.optional Reader.string).Takes text value := by
  intro lead rest spacing follows
  cases form with
  | none =>
    rw [Reader.optional, show "null".toList = 'n' :: "ull".toList from rfl, List.cons_append,
      Reader.bind_eq (Reader.look_eq spacing rfl _)]
    exact Reader.bind_eq (Reader.word_eq "null".toList rest)
  | some form =>
    have read := (form.takes.map (f := Option.some) rfl).here follows
    obtain ⟨tail, rfl⟩ := form.exists_cons
    rw [Reader.optional, List.cons_append, Reader.bind_eq (Reader.look_eq spacing rfl _)]
    exact read

end Strings

section Lists

/-- There is another item where a value begins, behind a comma unless it is the first one. -/
lemma EntryForm.anotherItem_eq {first : Bool} {lead before : List Char} {c : Char}
    (entry : EntryForm first lead) (spacing : Spacing before) (solid : isSpace c = false)
    (going : c ≠ ']') (rest : List Char) :
    Reader.anotherItem first (lead ++ (before ++ c :: rest)) = .ok (true, c :: rest) := by
  have looked := Reader.look_eq spacing solid rest
  cases entry with
  | first =>
    rw [List.nil_append, Reader.anotherItem, Reader.bind_eq looked]
    simp only
    rfl
  | next behind =>
    rw [List.append_assoc, List.singleton_append, Reader.anotherItem,
      Reader.bind_eq (Reader.look_eq behind rfl _)]
    show (Reader.advance >>= fun _ => _) _ = _
    rw [Reader.advance_bind, Reader.bind_eq looked]
    simp only
    rfl

/-- There is no other item where the list is closed. -/
lemma anotherItem_end {after : List Char} (spacing : Spacing after) (first : Bool)
    (rest : List Char) :
    Reader.anotherItem first (after ++ ']' :: rest) = .ok (false, ']' :: rest) := by
  rw [Reader.anotherItem, Reader.bind_eq (Reader.look_eq spacing rfl rest)]
  rfl

variable {α : Type} {item : Reader α}

/-- No items are read where the list is closed. -/
lemma items_end {after : List Char} (spacing : Spacing after) (limit : Nat) (first : Bool)
    (rest : List Char) :
    Reader.items item (limit + 1) first (after ++ ']' :: rest) = .ok ([], ']' :: rest) := by
  rw [Reader.items, Reader.bind_eq (anotherItem_end spacing first rest)]
  rfl

/-- One more item is read, and then those behind it. -/
lemma EntryForm.items_eq {first : Bool} {a : α} {lead before text : List Char} {as : List α}
    {behind rest : List Char} (entry : EntryForm first lead) (spacing : Spacing before)
    (takes : item.Takes text a) (opens : ∃ c tail, text = c :: tail ∧ isSpace c = false ∧ c ≠ ']')
    (follows : Follows behind) {limit : Nat}
    (others : Reader.items item limit false behind = .ok (as, rest)) :
    Reader.items item (limit + 1) first (lead ++ (before ++ (text ++ behind))) =
      .ok (a :: as, rest) := by
  have read := takes.here follows
  obtain ⟨c, tail, rfl, solid, going⟩ := opens
  rw [Reader.items, List.cons_append, Reader.bind_eq (entry.anotherItem_eq spacing solid going _)]
  show (item >>= fun a => _) _ = _
  rw [← List.cons_append, Reader.bind_eq read, Reader.bind_eq others]
  rfl

variable {form : α → List Char → Prop}

/-- All items are read, if the limit is beyond the length of their text. -/
lemma ItemsForm.items_eq (takes : ∀ a text, form a text → item.Takes text a)
    (opens : ∀ a text, form a text → ∃ c tail, text = c :: tail ∧ isSpace c = false ∧ c ≠ ']')
    {as : List α} {text : List Char} (items : ItemsForm form as text) {limit : Nat}
    (enough : text.length < limit) {first : Bool} {lead : List Char} (entry : EntryForm first lead)
    (rest : List Char) :
    Reader.items item limit first (lead ++ (text ++ ']' :: rest)) = .ok (as, ']' :: rest) := by
  induction items generalizing limit first lead with
  | @last a before text after spacing written behind =>
    have size : 0 < text.length := by
      obtain ⟨c, tail, rfl, -⟩ := opens a text written
      simp
    obtain ⟨limit, rfl⟩ : ∃ less, limit = less + 2 := ⟨limit - 2, by simp at enough; omega⟩
    rw [List.append_assoc, List.append_assoc]
    exact entry.items_eq spacing (takes a text written) (opens a text written)
      (behind.follows (follows_cons (by decide) rest)) (items_end behind limit false rest)
  | @more a as before text after others spacing written behind _ ih =>
    obtain ⟨limit, rfl⟩ : ∃ less, limit = less + 1 := ⟨limit - 1, by omega⟩
    have stillEnough : others.length < limit := by
      simp at enough
      omega
    have read := ih stillEnough (.next behind)
    rw [List.append_assoc, List.singleton_append] at read
    rw [List.append_assoc, List.append_assoc, List.append_assoc]
    exact entry.items_eq spacing (takes a text written) (opens a text written)
      (behind.follows (follows_cons (by decide) _)) read

/-- A list is read as the list of its items. -/
lemma SeriesForm.list_takes (takes : ∀ a text, form a text → item.Takes text a)
    (opens : ∀ a text, form a text → ∃ c tail, text = c :: tail ∧ isSpace c = false ∧ c ≠ ']')
    {as : List α} {text : List Char} (series : SeriesForm form .list as text) :
    (Reader.list item).Takes text as := by
  have bracket {text rest lead : List Char} (spacing : Spacing lead)
      (read : Reader.items item ((text ++ ']' :: rest).length + 1) true (text ++ ']' :: rest) =
        .ok (as, ']' :: rest)) :
      Reader.list item
          (lead ++ (Bracket.list.opening :: (text ++ [Bracket.list.closing]) ++ rest)) =
        .ok (as, rest) := by
    rw [List.cons_append, List.append_assoc, List.singleton_append, Reader.list,
      Reader.bind_eq (Reader.look_eq spacing rfl _)]
    show (Reader.advance >>= fun _ => _) _ = _
    rw [Reader.advance_bind]
    show (Reader.items item ((text ++ ']' :: rest).length + 1) true (text ++ ']' :: rest) >>=
      fun result => _) = _
    rw [read]
    rfl
  intro lead rest spacing _
  cases series with
  | empty inside => exact bracket spacing (items_end inside _ true rest)
  | items items =>
    exact bracket spacing
      (items.items_eq takes opens (by simp only [List.length_append]; omega) .first rest)

end Lists

end WifiRoster.Json
