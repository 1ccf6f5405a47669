import WifiRoster.Text.Unprinted

/-!
# Quoted text

A text in double quotes, for error messages. The quote and the backslash are escaped by a
backslash, four control characters have a letter of their own, and every other character without
a printed form is given by its code point in hexadecimal.
-/

namespace WifiRoster.Text

/-- The code point of a character between braces, in hexadecimal without leading zeros. -/
def codePointEscape (c : Char) : List Char :=
  ['\\', 'u', '\x7b'] ++ Nat.toDigits 16 c.toNat ++ ['\x7d']

/-- The form that a character takes between quotes. -/
def quotedChar (c : Char) : List Char :=
  match c with
  | '"' => ['\\', '"']
  | '\\' => ['\\', '\\']
  | '\x00' => ['\\', '0']
  | '\t' => ['\\', 't']
  | '\r' => ['\\', 'r']
  | '\n' => ['\\', 'n']
  | _ => if isUnprinted c then codePointEscape c else [c]

/-- The text between double quotes, on one line and with nothing invisible in it. -/
def quoted (text : String) : String :=
  String.ofList ('"' :: text.toList.flatMap quotedChar ++ ['"'])

/-- The backslash of an escape is itself escaped. -/
example : ['"', '\\', '\n', '\u00ad'].flatMap quotedChar = "\\\"\\\\\\n\\u\x7bad\x7d".toList := by
  decide +kernel

end WifiRoster.Text
