import WifiRoster.Json.Skip

/-!
# The grammar of JSON

How values may be written, said by relations between a value and its texts and not through any
reader. A value has many texts: blank space stands between its parts, a character of a string is
written as it is or by an escape, and the members of an object come in any order.

A text of a value has no blank space around it. Where a value is of no interest, `ValueForm` says
that a text is that of some value.
-/

namespace WifiRoster.Json

/-- A text that may stand between the parts of a value. -/
def Spacing (text : List Char) : Prop := ∀ c ∈ text, c ∈ [' ', '\t', '\n', '\r']

/-- There need not be any blank space. -/
theorem Spacing.nil : Spacing [] := nofun

section Strings

/-- A hexadecimal digit, in either case. -/
def HexForm (value : Nat) (c : Char) : Prop :=
  value < 16 ∧ (c = Nat.digitChar value ∨ c = (Nat.digitChar value).toUpper)

/-- A UTF-16 unit in four hexadecimal digits. -/
inductive UnitForm : Nat → List Char → Prop
  | digits {p q r s : Nat} {a b c d : Char} :
      HexForm p a →
      HexForm q b →
      HexForm r c →
      HexForm s d →
      UnitForm (((p * 16 + q) * 16 + r) * 16 + s) [a, b, c, d]

/-- The letters that stand for a character behind a backslash. -/
inductive EscapeForm : Char → Char → Prop
  | quote : EscapeForm '"' '"'
  | backslash : EscapeForm '\\' '\\'
  | slash : EscapeForm '/' '/'
  | backspace : EscapeForm '\x08' 'b'
  | formFeed : EscapeForm '\x0c' 'f'
  | newline : EscapeForm '\n' 'n'
  | carriageReturn : EscapeForm '\r' 'r'
  | tab : EscapeForm '\t' 't'

/-- A character between quotes: as it is, by a letter, or by the one or two units of UTF-16. -/
inductive CharForm : Char → List Char → Prop
  | plain {c : Char} : c ≠ '"' → c ≠ '\\' → 0x20 ≤ c.toNat → CharForm c [c]
  | letter {c l : Char} : EscapeForm c l → CharForm c ['\\', l]
  | unit {c : Char} {digits : List Char} :
      UnitForm c.toNat digits →
      CharForm c ('\\' :: 'u' :: digits)
  | pair {c : Char} {first second : List Char} :
      0x10000 ≤ c.toNat →
      UnitForm (0xD800 + (c.toNat - 0x10000) / 0x400) first →
      UnitForm (0xDC00 + (c.toNat - 0x10000) % 0x400) second →
      CharForm c ('\\' :: 'u' :: first ++ '\\' :: 'u' :: second)

/-- The characters between the quotes, one after the other. -/
inductive CharsForm : List Char → List Char → Prop
  | nil : CharsForm [] []
  | cons {c : Char} {cs text rest : List Char} :
      CharForm c text →
      CharsForm cs rest →
      CharsForm (c :: cs) (text ++ rest)

/-- A string in its quotes. -/
inductive StringForm : String → List Char → Prop
  | quoted {value : String} {text : List Char} :
      CharsForm value.toList text →
      StringForm value ('"' :: (text ++ ['"']))

/-- What may stand between the quotes of some string. Units need not make up characters. -/
inductive UnreadForm : List Char → Prop
  | nil : UnreadForm []
  | plain {c : Char} {rest : List Char} :
      c ≠ '"' →
      c ≠ '\\' →
      0x20 ≤ c.toNat →
      UnreadForm rest →
      UnreadForm (c :: rest)
  | letter {c l : Char} {rest : List Char} :
      EscapeForm c l →
      UnreadForm rest →
      UnreadForm ('\\' :: l :: rest)
  | unit {unit : Nat} {digits rest : List Char} :
      UnitForm unit digits →
      UnreadForm rest →
      UnreadForm ('\\' :: 'u' :: (digits ++ rest))

end Strings

section Numbers

/-- At least one decimal digit. -/
inductive DigitsForm : List Nat → List Char → Prop
  | digits {digits : List Nat} :
      digits ≠ [] →
      (∀ digit ∈ digits, digit < 10) →
      DigitsForm digits (digits.map Nat.digitChar)

/-- A whole part, which has no leading zeros. -/
inductive WholeForm : List Nat → List Char → Prop
  | whole {digits : List Nat} {text : List Char} :
      DigitsForm digits text →
      (digits.head? = some 0 → digits = [0]) →
      WholeForm digits text

/-- A point and the digits behind it, or nothing. -/
inductive FractionForm : List Nat → List Char → Prop
  | none : FractionForm [] []
  | some {digits : List Nat} {text : List Char} :
      DigitsForm digits text →
      FractionForm digits ('.' :: text)

/-- An exponent with its mark and perhaps a sign, or nothing. -/
inductive ExponentForm : Option Int → List Char → Prop
  | none : ExponentForm none []
  | unsigned {mark : Char} {digits : List Nat} {text : List Char} :
      mark ∈ ['e', 'E'] →
      DigitsForm digits text →
      ExponentForm (some (digitsValue digits)) (mark :: text)
  | positive {mark : Char} {digits : List Nat} {text : List Char} :
      mark ∈ ['e', 'E'] →
      DigitsForm digits text →
      ExponentForm (some (digitsValue digits)) (mark :: '+' :: text)
  | negative {mark : Char} {digits : List Nat} {text : List Char} :
      mark ∈ ['e', 'E'] →
      DigitsForm digits text →
      ExponentForm (some (-(digitsValue digits : Int))) (mark :: '-' :: text)

/-- A number. -/
inductive LiteralForm : Literal → List Char → Prop
  | plain {whole fraction : List Nat} {exponent : Option Int} {first second third : List Char} :
      WholeForm whole first →
      FractionForm fraction second →
      ExponentForm exponent third →
      LiteralForm ⟨false, whole, fraction, exponent⟩ (first ++ (second ++ third))
  | negative {whole fraction : List Nat} {exponent : Option Int}
      {first second third : List Char} :
      WholeForm whole first →
      FractionForm fraction second →
      ExponentForm exponent third →
      LiteralForm ⟨true, whole, fraction, exponent⟩ ('-' :: (first ++ (second ++ third)))

/-- An integer in decimal; zero has no sign. -/
inductive IntegerForm : Int → List Char → Prop
  | natural {digits : List Nat} {text : List Char} :
      WholeForm digits text →
      IntegerForm (digitsValue digits) text
  | negative {digits : List Nat} {text : List Char} :
      WholeForm digits text →
      digitsValue digits ≠ 0 →
      IntegerForm (-(digitsValue digits : Int)) ('-' :: text)

end Numbers

section Values

/-- The character that opens a bracket. -/
def Bracket.opening : Bracket → Char
  | list => '['
  | object => '\x7b'

/-- What stands in front of a value inside a bracket: in an object its key and a colon. -/
inductive LeadForm : Bracket → List Char → Prop
  | list : LeadForm .list []
  | object {key before after : List Char} :
      UnreadForm key →
      Spacing before →
      Spacing after →
      LeadForm .object ('"' :: (key ++ '"' :: (before ++ ':' :: after)))

/-- A whole value, or the members of a bracket, of which there is at least one. -/
inductive Part where
  | value
  | members (bracket : Bracket)

/-- The text of some value, or of some members of a bracket. -/
inductive ValueForm : Part → List Char → Prop
  | word {word : String} : word ∈ ["null", "true", "false"] → ValueForm .value word.toList
  | number {literal : Literal} {text : List Char} :
      LiteralForm literal text →
      ValueForm .value text
  | string {text : List Char} : UnreadForm text → ValueForm .value ('"' :: (text ++ ['"']))
  | empty (bracket : Bracket) {text : List Char} :
      Spacing text →
      ValueForm .value (bracket.opening :: (text ++ [bracket.closing]))
  | members (bracket : Bracket) {text : List Char} :
      ValueForm (.members bracket) text →
      ValueForm .value (bracket.opening :: (text ++ [bracket.closing]))
  | last {bracket : Bracket} {before lead value after : List Char} :
      Spacing before →
      LeadForm bracket lead →
      ValueForm .value value →
      Spacing after →
      ValueForm (.members bracket) (before ++ (lead ++ (value ++ after)))
  | more {bracket : Bracket} {before lead value after rest : List Char} :
      Spacing before →
      LeadForm bracket lead →
      ValueForm .value value →
      Spacing after →
      ValueForm (.members bracket) rest →
      ValueForm (.members bracket) (before ++ (lead ++ (value ++ (after ++ ',' :: rest))))

/-- A truth value. -/
inductive BooleanForm : Bool → List Char → Prop
  | true : BooleanForm true "true".toList
  | false : BooleanForm false "false".toList

/-- A value that may be null. -/
inductive OptionalForm {α : Type} (form : α → List Char → Prop) : Option α → List Char → Prop
  | none : OptionalForm form none "null".toList
  | some {a : α} {text : List Char} : form a text → OptionalForm form (some a) text

end Values

section Brackets

variable {α : Type} (form : α → List Char → Prop)

/-- Items with commas between them, at least one. -/
inductive ItemsForm : List α → List Char → Prop
  | last {a : α} {before text after : List Char} :
      Spacing before →
      form a text →
      Spacing after →
      ItemsForm [a] (before ++ (text ++ after))
  | more {a : α} {as : List α} {before text after rest : List Char} :
      Spacing before →
      form a text →
      Spacing after →
      ItemsForm as rest →
      ItemsForm (a :: as) (before ++ (text ++ (after ++ ',' :: rest)))

/-- Items in a bracket. -/
inductive SeriesForm (bracket : Bracket) : List α → List Char → Prop
  | empty {text : List Char} :
      Spacing text →
      SeriesForm bracket [] (bracket.opening :: (text ++ [bracket.closing]))
  | items {as : List α} {text : List Char} :
      ItemsForm form as text →
      SeriesForm bracket as (bracket.opening :: (text ++ [bracket.closing]))

/-- A text that holds one value and nothing but blank space around it. -/
inductive TextForm : α → List Char → Prop
  | spaced {a : α} {before text after : List Char} :
      Spacing before →
      form a text →
      Spacing after →
      TextForm a (before ++ (text ++ after))

end Brackets

section Objects

/-- A key and the text of its value, with a colon between them. -/
inductive MemberForm : String × List Char → List Char → Prop
  | member {name : String} {key before after value : List Char} :
      StringForm name key →
      Spacing before →
      Spacing after →
      MemberForm (name, value) (key ++ (before ++ ':' :: (after ++ value)))

/-- How one member of the records of a type is written. -/
structure MemberRule (α : Type) where
  name : String
  /-- The texts of the member's value in a record. -/
  form : α → List Char → Prop
  /-- Whether the member of a record may be left out. -/
  omittable : α → Prop

/-- Members that make up a record: each at most once, left out only where that is allowed, and any
other members with any values. -/
structure MembersForm {α : Type} (rules : List (MemberRule α)) (a : α)
    (members : List (String × List Char)) : Prop where
  once : members.Pairwise fun m other =>
    m.1 = other.1 → ∀ rule ∈ rules, rule.name ≠ m.1
  known : ∀ m ∈ members, ∀ rule ∈ rules, rule.name = m.1 → rule.form a m.2
  unknown : ∀ m ∈ members, (∀ rule ∈ rules, rule.name ≠ m.1) → ValueForm .value m.2
  missing : ∀ rule ∈ rules, (∀ m ∈ members, m.1 ≠ rule.name) → rule.omittable a

/-- A record as an object, with its members in any order. -/
inductive ObjectForm {α : Type} (rules : List (MemberRule α)) : α → List Char → Prop
  | object {a : α} {members : List (String × List Char)} {text : List Char} :
      SeriesForm MemberForm .object members text →
      MembersForm rules a members →
      ObjectForm rules a text

end Objects

end WifiRoster.Json
