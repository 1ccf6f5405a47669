import WifiRoster.Json.Values

/-!
# Lists

A list is read item by item. What separates the items is looked at in front of each of them.
-/

namespace WifiRoster.Json.Reader

/-- Whether another item follows; if so, skips the comma in front of it. The closing bracket stays
in the text. -/
def anotherItem (first : Bool) : Reader Bool := do
  match ← look with
  | none => fail .endInList
  | some ']' => return false
  | some c =>
    if first then return true
    else if c = ',' then
      advance
      match ← look with
      | none => fail .endInValue
      | some ']' => fail .trailingComma
      | some _ => return true
    else fail .noListSeparator

/-- Reads the items up to the closing bracket, at most so many. -/
def items (item : Reader α) : Nat → Bool → Reader (List α)
  | 0, _ => fail .endInList
  | limit + 1, first => do
    if ← anotherItem first then
      let a ← item
      return a :: (← items item limit false)
    else return []

/-- Reads a list. There are no more items than characters. -/
def list (item : Reader α) : Reader (List α) := do
  match ← look with
  | some '[' =>
    advance
    let as ← fun text => items item (text.length + 1) true text
    advance
    return as
  | _ => wrong "a sequence"

end WifiRoster.Json.Reader
