import WifiRoster.Text.Quoted

/-!
# Faults in JSON texts

A text is read from left to right into a value of a known form, and the first thing that stands in
the way is the fault. Either the text ends too early, or it is no JSON, or it is JSON of another
form than the wanted one.
-/

namespace WifiRoster.Json

/-- A value that was met where another was wanted; of a list or an object only the bracket. -/
inductive Met where
  | null
  | boolean (value : Bool)
  | integer (value : Int)
  /-- A number that is no integer, as its shortest decimal. -/
  | floating (decimal : String)
  | string (value : String)
  | list
  | object
deriving DecidableEq, Repr

/-- The wording of a met value. -/
def Met.message : Met → String
  | null => "null"
  | boolean value => "boolean `" ++ (if value then "true" else "false") ++ "`"
  | integer value => "integer `" ++ toString value ++ "`"
  | floating decimal => "floating point `" ++ decimal ++ "`"
  | string value => "string " ++ Text.quoted value
  | list => "sequence"
  | object => "map"

/-- What stands in the way of reading a text. -/
inductive Fault where
  /-- The text ends where a value is wanted or inside a number or a word. -/
  | endInValue
  /-- The text ends inside a list. -/
  | endInList
  /-- The text ends inside an object. -/
  | endInObject
  /-- The text ends inside a string. -/
  | endInString
  /-- No value starts here. -/
  | noValue
  /-- A word that starts like one of the three literal words goes on differently. -/
  | badWord
  | noColon
  | noListSeparator
  | noObjectSeparator
  /-- A comma stands right before the closing bracket. -/
  | trailingComma
  /-- Something follows where the text or an array should end. -/
  | trailingCharacters
  | keyNotString
  | badNumber
  /-- The number is too large for a floating-point number. -/
  | numberOutOfRange
  | badEscape
  | controlCharacter
  /-- A second surrogate comes first, or a first surrogate is followed by another escape. -/
  | loneSurrogate
  /-- No escape follows a first surrogate. -/
  | missingSurrogate
  /-- A value of another type was met. -/
  | wrongType (met : Met) (wanted : String)
  /-- An integer was met that the wanted type does not hold. -/
  | wrongValue (value : Int) (wanted : String)
  | missingField (name : String)
  | duplicateField (name : String)
  | unknownVariant (name : String) (known : List String)
  /-- An array ends before the element with this index. -/
  | wrongLength (index : Nat) (wanted : String)
  /-- The value has the right type but says something impossible. -/
  | refused (reason : String)
deriving DecidableEq, Repr

/-- The three kinds of faults. -/
inductive Category where
  /-- The text ends too early. -/
  | incomplete
  /-- The text is no JSON. -/
  | malformed
  /-- The text is JSON of another form than the wanted one. -/
  | mismatched
deriving DecidableEq, Repr

namespace Fault

/-- The kind of a fault. -/
def category : Fault → Category
  | endInValue | endInList | endInObject | endInString => .incomplete
  | noValue | badWord | noColon | noListSeparator | noObjectSeparator | trailingComma
  | trailingCharacters | keyNotString | badNumber | numberOutOfRange | badEscape
  | controlCharacter | loneSurrogate | missingSurrogate => .malformed
  | wrongType .. | wrongValue .. | missingField .. | duplicateField .. | unknownVariant ..
  | wrongLength .. | refused .. => .mismatched

/-- A name between grave accents. -/
def ticked (name : String) : String := "`" ++ name ++ "`"

/-- The wording of a choice among several names. -/
def alternatives (names : List String) : String :=
  "one of " ++ ", ".intercalate (names.map ticked)

/-- The wording of a fault. -/
def message : Fault → String
  | endInValue => "EOF while parsing a value"
  | endInList => "EOF while parsing a list"
  | endInObject => "EOF while parsing an object"
  | endInString => "EOF while parsing a string"
  | noValue => "expected value"
  | badWord => "expected ident"
  | noColon => "expected `:`"
  | noListSeparator => "expected `,` or `]`"
  | noObjectSeparator => "expected `,` or `\x7d`"
  | trailingComma => "trailing comma"
  | trailingCharacters => "trailing characters"
  | keyNotString => "key must be a string"
  | badNumber => "invalid number"
  | numberOutOfRange => "number out of range"
  | badEscape => "invalid escape"
  | controlCharacter => "control character (\\u0000-\\u001F) found while parsing a string"
  | loneSurrogate => "lone leading surrogate in hex escape"
  | missingSurrogate => "unexpected end of hex escape"
  | wrongType met wanted => "invalid type: " ++ met.message ++ ", expected " ++ wanted
  | wrongValue value wanted =>
    "invalid value: integer `" ++ toString value ++ "`, expected " ++ wanted
  | missingField name => "missing field " ++ ticked name
  | duplicateField name => "duplicate field " ++ ticked name
  | unknownVariant name known =>
    "unknown variant " ++ ticked name ++ ", expected " ++ alternatives known
  | wrongLength index wanted => "invalid length " ++ toString index ++ ", expected " ++ wanted
  | refused reason => reason

end Fault

end WifiRoster.Json
