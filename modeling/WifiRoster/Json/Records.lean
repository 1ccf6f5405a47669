import WifiRoster.Json.Lists

/-!
# Records

A record has named members and is written as an object, with its members in any order and other
members among them, or as an array of the members in their order. While it is read, a draft holds
the members that have been met. What is missing is known at the end.
-/

namespace WifiRoster.Json

/-- A member of a record whose drafts are of type `δ`. -/
structure Member (δ : Type) where
  name : String
  /-- Whether an array may end before the member. -/
  optional : Bool
  /-- Whether a draft has the member already. -/
  isSet : δ → Bool
  /-- Reads the value of the member into a draft. -/
  read : δ → Reader δ

/-- How records of type `α` are written. -/
structure RecordForm (δ α : Type) where
  /-- What is wanted, in the wording of faults. -/
  wanted : String
  /-- The draft without any member. -/
  blank : δ
  members : List (Member δ)
  /-- The record of a draft, or the fault of the first member that is missing. -/
  finish : δ → Except Fault α

/-- The value of a member that a record cannot do without. -/
def required (name : String) : Option α → Except Fault α
  | some a => .ok a
  | none => .error (.missingField name)

namespace Reader

/-- Whether another member follows; if so, skips what stands in front of its key and the quote
that the key starts with. The closing bracket stays in the text. -/
def anotherMember (first : Bool) : Reader Bool := do
  match ← look with
  | none => fail .endInObject
  | some '\x7d' => return false
  | some c =>
    if first then
      if c = '"' then
        advance
        return true
      else fail .keyNotString
    else if c = ',' then
      advance
      match ← look with
      | none => fail .endInValue
      | some '"' =>
        advance
        return true
      | some '\x7d' => fail .trailingComma
      | some _ => fail .keyNotString
    else fail .noObjectSeparator

/-- Reads the member with the given key into a draft; skips a member that the record has not. -/
def member (form : RecordForm δ α) (key : String) (draft : δ) : Reader δ := do
  match form.members.find? (·.name == key) with
  | some m =>
    if m.isSet draft then fail (.duplicateField key)
    else
      colon
      m.read draft
  | none =>
    colon
    skipValue
    return draft

/-- Reads the members up to the closing bracket into a draft, at most so many. -/
def members (form : RecordForm δ α) : Nat → Bool → δ → Reader δ
  | 0, _, _ => fail .endInObject
  | limit + 1, first, draft => do
    if ← anotherMember first then
      let key ← stringBody
      members form limit false (← member form key draft)
    else return draft

/-- Reads the elements of an array into the given members of a draft, the first of which has the
given index. -/
def elements (form : RecordForm δ α) (index : Nat) : List (Member δ) → δ → Reader δ
  | [], draft => return draft
  | m :: rest, draft => do
    if ← anotherItem (index == 0) then elements form (index + 1) rest (← m.read draft)
    else if m.optional then elements form (index + 1) rest draft
    else
      fail (.wrongLength index
        (form.wanted ++ " with " ++ toString form.members.length ++ " elements"))

/-- Skips the end of an array that all members have been read from. -/
def arrayEnd : Reader Unit := do
  match ← look with
  | some ']' => advance
  | some ',' =>
    advance
    match ← look with
    | some ']' => fail .trailingComma
    | _ => fail .trailingCharacters
  | some _ => fail .trailingCharacters
  | none => fail .endInList

/-- Reads a record. There are no more members than characters. -/
def record (form : RecordForm δ α) : Reader α := do
  match ← look with
  | some '[' =>
    advance
    let draft ← elements form 0 form.members form.blank
    let a ← ofExcept (form.finish draft)
    arrayEnd
    return a
  | some '\x7b' =>
    advance
    let draft ← fun text => members form (text.length + 1) true form.blank text
    let a ← ofExcept (form.finish draft)
    advance
    return a
  | _ => wrong form.wanted

end Reader

end WifiRoster.Json
