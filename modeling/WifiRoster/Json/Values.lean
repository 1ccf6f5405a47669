import WifiRoster.Json.Skip

/-!
# Values of known types

Readers for values whose type is known beforehand. A value of another type is a fault, which tells
what was met; it is read only as far as this takes, so a list or an object not beyond its bracket.
-/

namespace WifiRoster.Json.Reader

/-- Reads what stands here in place of the wanted value. -/
def met : Reader Met := do
  match ← look with
  | none => fail .endInValue
  | some 'n' =>
    word ['n', 'u', 'l', 'l']
    return .null
  | some 't' =>
    word ['t', 'r', 'u', 'e']
    return .boolean true
  | some 'f' =>
    word ['f', 'a', 'l', 's', 'e']
    return .boolean false
  | some '"' =>
    advance
    return .string (← stringBody)
  | some '[' => return .list
  | some '\x7b' => return .object
  | some c => if c == '-' || c.isDigit then return (← number).met else fail .noValue

/-- Fails, as the value is not of the wanted type. -/
def wrong (wanted : String) : Reader α := do
  fail (.wrongType (← met) wanted)

/-- Reads a string. -/
def string : Reader String := do
  match ← look with
  | some '"' =>
    advance
    stringBody
  | _ => wrong "a string"

/-- Reads a truth value. -/
def boolean : Reader Bool := do
  match ← look with
  | some 't' =>
    word ['t', 'r', 'u', 'e']
    return true
  | some 'f' =>
    word ['f', 'a', 'l', 's', 'e']
    return false
  | _ => wrong "a boolean"

/-- Reads the null value. -/
def null : Reader Unit := do
  match ← look with
  | some 'n' => word ['n', 'u', 'l', 'l']
  | _ => wrong "unit"

/-- Reads a value that may be null. -/
def optional (value : Reader α) : Reader (Option α) := do
  match ← look with
  | some 'n' =>
    word ['n', 'u', 'l', 'l']
    return none
  | _ => some <$> value

/-- The number as an integer of 32 bits. -/
def toInt32 : Number → Except Fault Int32
  | .integer n =>
    if Int32.minValue.toInt ≤ n ∧ n ≤ Int32.maxValue.toInt then .ok (.ofInt n)
    else .error (.wrongValue n "i32")
  | number => .error (.wrongType number.met "i32")

/-- Reads an integer of 32 bits. -/
def int32 : Reader Int32 := do
  match ← look with
  | some c => if c == '-' || c.isDigit then ofExcept (toInt32 (← number)) else wrong "i32"
  | none => wrong "i32"

/-- Reads the name of one of several alternatives, whose opening quote has been read. -/
def variantName (known : List (String × α)) : Reader α := do
  let name ← stringBody
  match known.lookup name with
  | some a => return a
  | none => fail (.unknownVariant name (known.map (·.1)))

/-- Reads the name of an alternative as the key of an object; an object without members stands for
no value. -/
def variantKey (known : List (String × α)) : Reader α := do
  match ← look with
  | some '"' =>
    advance
    variantName known
  | some '\x7d' => fail .noValue
  | some _ => fail .keyNotString
  | none => fail .endInObject

/-- Reads one of several alternatives: its name, or an object whose only member has the name for a
key and null for a value. -/
def variant (known : List (String × α)) : Reader α := do
  match ← look with
  | some '"' =>
    advance
    variantName known
  | some '\x7b' =>
    advance
    let a ← variantKey known
    colon
    null
    match ← look with
    | some '\x7d' =>
      advance
      return a
    | some _ => fail .noValue
    | none => fail .endInObject
  | some _ => fail .noValue
  | none => fail .endInValue

end WifiRoster.Json.Reader
