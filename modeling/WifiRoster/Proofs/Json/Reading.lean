import Mathlib.Data.List.TakeWhile
import WifiRoster.Proofs.Json.Grammar

/-!
# Taking values off a text

A reader takes a text for a value if it does so behind any blank space and in front of whatever may
follow a value, and leaves what follows (`Reader.Takes`). A reader that goes on after another sees
what that has left (`Reader.bind_eq`), so readers are followed step by step.
-/

namespace WifiRoster.Json

/-- What may stand behind a value: nothing that a number could go on with. -/
def Follows (rest : List Char) : Prop :=
  ∀ c ∈ rest.head?, c.isDigit = false ∧ c ≠ '.' ∧ c ≠ 'e' ∧ c ≠ 'E'

/-- The reader takes a text, with any blank space in front of it, for a value. -/
def Reader.Takes {α : Type} (reader : Reader α) (text : List Char) (a : α) : Prop :=
  ∀ lead rest, Spacing lead → Follows rest → reader (lead ++ (text ++ rest)) = .ok (a, rest)

/-- What parts an item from what stands in front of it: nothing in front of the first one, a comma
in front of the others. -/
inductive EntryForm : Bool → List Char → Prop
  | first : EntryForm true []
  | next {after : List Char} : Spacing after → EntryForm false (after ++ [','])

section Spacing

/-- There are four characters of blank space. -/
lemma isSpace_iff {c : Char} : isSpace c = true ↔ c ∈ [' ', '\t', '\n', '\r'] := by
  simp [isSpace, or_assoc]

/-- Blank space is dropped up to the first other character. -/
lemma Spacing.dropWhile {lead : List Char} (spacing : Spacing lead) {c : Char}
    (solid : isSpace c = false) (rest : List Char) :
    (lead ++ c :: rest).dropWhile isSpace = c :: rest := by
  rw [List.dropWhile_append_of_pos fun c hc => isSpace_iff.2 (spacing c hc)]
  simp [solid]

/-- Blank space and what closes or parts brackets may follow a value. -/
lemma follows_cons {c : Char} (hc : c ∈ [' ', '\t', '\n', '\r', ',', ':', ']', '\x7d'])
    (rest : List Char) : Follows (c :: rest) := by
  rintro _ ⟨⟩
  simp only [List.mem_cons, List.not_mem_nil, or_false] at hc
  obtain rfl | rfl | rfl | rfl | rfl | rfl | rfl | rfl := hc
  all_goals decide

/-- Blank space may stand behind a value before what may follow it. -/
lemma Spacing.follows {lead rest : List Char} (spacing : Spacing lead) (follows : Follows rest) :
    Follows (lead ++ rest) := by
  cases lead with
  | nil => exact follows
  | cons c lead =>
    have mark := List.mem_append_left [',', ':', ']', '\x7d'] (spacing c (.head _))
    exact follows_cons mark (lead ++ rest)

end Spacing

namespace Reader

variable {α β : Type}

/-- A reader that goes on after another sees what that has left. -/
lemma bind_eq {reader : Reader α} {f : α → Reader β} {text rest : List Char} {a : α}
    (first : reader text = .ok (a, rest)) : (reader >>= f) text = f a rest := by
  show (reader text >>= fun p => f p.1 p.2) = f a rest
  rw [first]
  rfl

/-- After one character is passed over, reading goes on behind it. -/
lemma advance_bind (reader : Reader α) (c : Char) (rest : List Char) :
    (advance >>= fun _ => reader) (c :: rest) = reader rest := rfl

/-- Looking passes over blank space. -/
lemma look_eq {lead : List Char} (spacing : Spacing lead) {c : Char} (solid : isSpace c = false)
    (rest : List Char) : look (lead ++ c :: rest) = .ok (some c, c :: rest) := by
  show Except.ok (((lead ++ c :: rest).dropWhile isSpace).head?,
    (lead ++ c :: rest).dropWhile isSpace) = _
  rw [spacing.dropWhile solid]
  rfl

/-- A word is read where its letters stand. -/
lemma word_eq (letters rest : List Char) : word letters (letters ++ rest) = .ok ((), rest) := by
  induction letters with
  | nil => rfl
  | cons letter letters ih =>
    rw [word, bind_eq rfl]
    show (if letter = letter then advance >>= fun _ => word letters else fail .badWord) _ = _
    rw [if_pos rfl, bind_eq rfl]
    exact ih

/-- A text is taken also without blank space in front of it. -/
lemma Takes.here {reader : Reader α} {text rest : List Char} {a : α} (takes : reader.Takes text a)
    (follows : Follows rest) : reader (text ++ rest) = .ok (a, rest) :=
  takes [] rest .nil follows

/-- What is made of the value is named as the caller needs it. -/
lemma Takes.map {reader : Reader α} {text : List Char} {a : α} (takes : reader.Takes text a)
    {f : α → β} {b : β} (made : f a = b) : Reader.Takes (do return f (← reader)) text b := by
  intro lead rest spacing follows
  rw [bind_eq (takes lead rest spacing follows), ← made]
  rfl

/-- A fault at a value is the fault of the whole text. -/
lemma whole_eq_error {reader : Reader α} {text : String} {fault : Fault}
    (failed : reader text.toList = .error fault) : reader.whole text = .error fault := by
  have both : (reader <* space) text.toList = .error fault := by
    show (reader text.toList >>= fun result => _) = _
    rw [failed]
    rfl
  rw [whole, both]

end Reader

/-- What a reader makes of the only value of a text is what it reads from the text. -/
lemma TextForm.whole_eq {α β : Type} {form : α → List Char → Prop} {reader : Reader β} {a : α}
    {b : β} {text : String} (written : TextForm form a text.toList)
    (takes : ∀ text, form a text → reader.Takes text b) : reader.whole text = .ok b := by
  generalize hchars : text.toList = chars at written
  cases written with
  | @spaced before inner after spacing written behind =>
    have nothing : Follows [] := nofun
    have read := takes inner written before after spacing (by simpa using behind.follows nothing)
    have left : after.dropWhile isSpace = [] :=
      List.dropWhile_eq_nil_iff.2 fun c hc => isSpace_iff.2 (behind c hc)
    have both : (reader <* Reader.space) text.toList = .ok (b, []) := by
      rw [hchars]
      show (reader >>= fun b => Reader.space >>= fun _ => pure b) _ = _
      rw [Reader.bind_eq read]
      show Except.ok (b, after.dropWhile isSpace) = _
      rw [left]
    rw [Reader.whole, both]

end WifiRoster.Json
