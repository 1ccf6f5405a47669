/-!
# Writing JSON

Values are written without any blank space. In a string, only the quote, the backslash and the
control characters are escaped, five of them by a letter.
-/

namespace WifiRoster.Json.Writer

/-- A lower-case hexadecimal digit. -/
def hexDigit (n : Nat) : Char := Nat.digitChar n

/-- The form that a character takes in a string. -/
def stringChar (c : Char) : List Char :=
  match c with
  | '"' => ['\\', '"']
  | '\\' => ['\\', '\\']
  | '\x08' => ['\\', 'b']
  | '\x0c' => ['\\', 'f']
  | '\n' => ['\\', 'n']
  | '\r' => ['\\', 'r']
  | '\t' => ['\\', 't']
  | _ =>
    if c.toNat < 0x20 then
      ['\\', 'u', '0', '0', hexDigit (c.toNat / 16), hexDigit (c.toNat % 16)]
    else [c]

/-- A string between its quotes. -/
def string (text : String) : List Char := '"' :: text.toList.flatMap stringChar ++ ['"']

/-- A truth value. -/
def boolean (value : Bool) : List Char := (if value then "true" else "false").toList

/-- An integer in decimal. -/
def integer (value : Int) : List Char := (toString value).toList

/-- A value that may be missing. -/
def optional (write : α → List Char) : Option α → List Char
  | some a => write a
  | none => "null".toList

/-- Written items, with commas between them, inside of brackets. -/
def list (items : List (List Char)) : List Char := '[' :: [','].intercalate items ++ [']']

/-- Members with their written values, in order. -/
def object (members : List (String × List Char)) : List Char :=
  '\x7b' :: [','].intercalate (members.map fun (key, value) => string key ++ ':' :: value) ++
    ['\x7d']

end WifiRoster.Json.Writer
