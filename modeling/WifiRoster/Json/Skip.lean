import WifiRoster.Json.Number
import WifiRoster.Json.Strings

/-!
# Skipped values

A value whose meaning does not matter is checked to be JSON and passed over. Brackets may be
nested to any depth: those that are open are kept in a list, the innermost first.
-/

namespace WifiRoster.Json

/-- A bracket that is open. -/
inductive Bracket where
  | list
  | object
deriving DecidableEq, Repr

namespace Bracket

/-- The character that closes a bracket. -/
def closing : Bracket → Char
  | list => ']'
  | object => '\x7d'

/-- The fault of a text that ends inside a bracket. -/
def endFault : Bracket → Fault
  | list => .endInList
  | object => .endInObject

/-- The fault of a value that neither a comma nor the closing bracket follows. -/
def separatorFault : Bracket → Fault
  | list => .noListSeparator
  | object => .noObjectSeparator

end Bracket

/-- What comes next while a value is skipped. -/
inductive Expecting where
  /-- A value. -/
  | value
  /-- Behind an opening bracket: the first value inside, or the end of the bracket. -/
  | first
  /-- Behind a value: what separates it from the next one, or the end of the bracket. -/
  | separator
deriving DecidableEq, Repr

namespace Reader

/-- Skips the colon between a key and its value. -/
def colon : Reader Unit := do
  match ← look with
  | some ':' => advance
  | some _ => fail .noColon
  | none => fail .endInObject

/-- Skips the key in front of a value, and the colon behind it. -/
def skipKey : Reader Unit := do
  match ← look with
  | some '"' =>
    advance
    skipStringBody
    colon
  | some _ => fail .keyNotString
  | none => fail .endInObject

/-- Skips what stands inside a bracket in front of a value. -/
def skipLead : Bracket → Reader Unit
  | .list => pure ()
  | .object => skipKey

/-- Skips a value that starts with the given character and is neither list nor object. -/
def skipScalar (c : Char) : Reader Unit :=
  match c with
  | 'n' => word ['n', 'u', 'l', 'l']
  | 't' => word ['t', 'r', 'u', 'e']
  | 'f' => word ['f', 'a', 'l', 's', 'e']
  | '"' => do
    advance
    skipStringBody
  | _ => if c == '-' || c.isDigit then skipNumber else fail .noValue

/-- Skips on until all brackets are closed, in at most so many steps. -/
def skipOn : Nat → Expecting → List Bracket → Reader Unit
  | 0, _, _ => fail .endInValue
  | steps + 1, .value, stack => do
    match ← look with
    | none => fail .endInValue
    | some '[' =>
      advance
      skipOn steps .first (.list :: stack)
    | some '\x7b' =>
      advance
      skipOn steps .first (.object :: stack)
    | some c =>
      skipScalar c
      skipOn steps .separator stack
  | _ + 1, _, [] => pure ()
  | steps + 1, .first, bracket :: stack => do
    match ← look with
    | none => fail bracket.endFault
    | some c =>
      if c = bracket.closing then
        advance
        skipOn steps .separator stack
      else
        skipLead bracket
        skipOn steps .value (bracket :: stack)
  | steps + 1, .separator, bracket :: stack => do
    match ← look with
    | none => fail bracket.endFault
    | some c =>
      if c = ',' then
        advance
        skipLead bracket
        skipOn steps .value (bracket :: stack)
      else if c = bracket.closing then
        advance
        skipOn steps .separator stack
      else fail bracket.separatorFault

/-- Skips a value. Two steps for each character are enough. -/
def skipValue : Reader Unit := fun text => skipOn (2 * text.length + 2) .value [] text

end Reader

end WifiRoster.Json
