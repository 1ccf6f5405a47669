import WifiRoster.Json.Fault

/-!
# Readers of JSON texts

A reader takes a value off the front of a text, or says what stands in the way. Blank space
between the parts of a value is one of four characters.
-/

namespace WifiRoster.Json

/-- Takes a value off the front of a text and leaves the rest. -/
abbrev Reader := StateT (List Char) (Except Fault)

/-- Whether a character may stand between the parts of a value. -/
def isSpace (c : Char) : Bool := c == ' ' || c == '\t' || c == '\n' || c == '\r'

namespace Reader

/-- Fails with a fault. -/
def fail (fault : Fault) : Reader α := fun _ => .error fault

/-- Skips blank space. -/
def space : Reader Unit := fun text => .ok ((), text.dropWhile isSpace)

/-- The next character, which stays in the text; `none` at its end. -/
def peek : Reader (Option Char) := fun text => .ok (text.head?, text)

/-- Skips one character. -/
def advance : Reader Unit := fun text => .ok ((), text.tail)

/-- The next character behind blank space, which stays in the text. -/
def look : Reader (Option Char) := do
  space
  peek

/-- Skips the given letters of a literal word. -/
def word : List Char → Reader Unit
  | [] => pure ()
  | letter :: letters => do
    match ← peek with
    | none => fail .endInValue
    | some c =>
      if c = letter then
        advance
        word letters
      else fail .badWord

/-- Reads a whole text: one value with nothing but blank space around it. -/
def whole (value : Reader α) (text : String) : Except Fault α :=
  match (value <* space) text.toList with
  | .ok (a, []) => .ok a
  | .ok (_, _ :: _) => .error .trailingCharacters
  | .error fault => .error fault

end Reader

end WifiRoster.Json
