import WifiRoster.Json.Reader

/-!
# Strings

Between its quotes a string holds characters as they are and escapes. An escape of four
hexadecimal digits gives a UTF-16 unit; a character beyond the first plane takes two of them, a
first and a second surrogate. A value that is skipped is not checked for paired surrogates.
-/

namespace WifiRoster.Json

/-- The value of a hexadecimal digit. -/
def hexDigit? (c : Char) : Option Nat :=
  if '0' ≤ c ∧ c ≤ '9' then some (c.toNat - '0'.toNat)
  else if 'a' ≤ c ∧ c ≤ 'f' then some (c.toNat - 'a'.toNat + 10)
  else if 'A' ≤ c ∧ c ≤ 'F' then some (c.toNat - 'A'.toNat + 10)
  else none

/-- The number of bytes that a text takes in UTF-8. -/
def byteLength (text : List Char) : Nat := text.foldl (fun n c => n + c.utf8Size) 0

/-- The unit given by four hexadecimal digits at the front of a text. -/
def takeUnit? : List Char → Option (Nat × List Char)
  | a :: b :: c :: d :: rest => do
    let unit := (((← hexDigit? a) * 16 + (← hexDigit? b)) * 16 + (← hexDigit? c)) * 16
    return (unit + (← hexDigit? d), rest)
  | _ => none

/-- The unit given by the next four hexadecimal digits. Where fewer than four bytes are left, the
string has ended too early. -/
def readUnit (text : List Char) : Except Fault (Nat × List Char) :=
  match takeUnit? text with
  | some result => .ok result
  | none => .error (if byteLength text < 4 then .endInString else .badEscape)

/-- Whether a unit is the first half of a pair. -/
def isFirstSurrogate (unit : Nat) : Bool := 0xD800 ≤ unit && unit ≤ 0xDBFF

/-- Whether a unit is the second half of a pair. -/
def isSecondSurrogate (unit : Nat) : Bool := 0xDC00 ≤ unit && unit ≤ 0xDFFF

/-- The character that two paired units stand for. -/
def pairedChar (first second : Nat) : Char :=
  Char.ofNat (0x10000 + (first - 0xD800) * 0x400 + (second - 0xDC00))

/-- The character whose last unit is still to come behind a first surrogate. -/
def readSecond (first : Nat) : List Char → Except Fault (Char × List Char)
  | [] => .error .endInString
  | '\\' :: [] => .error .endInString
  | '\\' :: 'u' :: rest =>
    match readUnit rest with
    | .error fault => .error fault
    | .ok (second, rest) =>
      if isSecondSurrogate second then .ok (pairedChar first second, rest)
      else .error .loneSurrogate
  | _ => .error .missingSurrogate

/-- The character that an escape of one letter stands for. -/
def letterEscape? : Char → Option Char
  | '"' => some '"'
  | '\\' => some '\\'
  | '/' => some '/'
  | 'b' => some '\x08'
  | 'f' => some '\x0c'
  | 'n' => some '\n'
  | 'r' => some '\r'
  | 't' => some '\t'
  | _ => none

/-- The character of an escape whose backslash has been read. -/
def readEscape : List Char → Except Fault (Char × List Char)
  | [] => .error .endInString
  | 'u' :: rest =>
    match readUnit rest with
    | .error fault => .error fault
    | .ok (unit, rest) =>
      if isSecondSurrogate unit then .error .loneSurrogate
      else if isFirstSurrogate unit then readSecond unit rest
      else .ok (Char.ofNat unit, rest)
  | letter :: rest =>
    match letterEscape? letter with
    | some c => .ok (c, rest)
    | none => .error .badEscape

/-- Skips an escape whose backslash has been read. -/
def skipEscape : List Char → Except Fault (List Char)
  | [] => .error .endInString
  | 'u' :: rest => (readUnit rest).map (·.2)
  | letter :: rest => if (letterEscape? letter).isSome then .ok rest else .error .badEscape

/-- Four digits are taken off the text. -/
theorem length_of_readUnit {text rest : List Char} {unit : Nat}
    (h : readUnit text = .ok (unit, rest)) : rest.length < text.length := by
  unfold readUnit at h
  split at h
  · next result hresult =>
    cases h
    unfold takeUnit? at hresult
    split at hresult
    · simp only [Option.pure_def, Option.bind_eq_bind, Option.bind_eq_some_iff, Option.some.injEq,
        Prod.mk.injEq] at hresult
      obtain ⟨_, _, _, _, _, _, _, _, _, rfl⟩ := hresult
      simp only [List.length_cons]
      omega
    · cases hresult
  · cases h

/-- A second surrogate takes something off the text. -/
theorem length_of_readSecond {text rest : List Char} {first : Nat} {c : Char}
    (h : readSecond first text = .ok (c, rest)) : rest.length < text.length := by
  unfold readSecond at h
  split at h
  · cases h
  · cases h
  · next tail =>
    split at h
    · cases h
    · next second after hsecond =>
      have := length_of_readUnit hsecond
      split at h
      · simp only [Except.ok.injEq, Prod.mk.injEq] at h
        obtain ⟨-, rfl⟩ := h
        simp only [List.length_cons]
        omega
      · cases h
  · cases h

/-- An escape takes something off the text. -/
theorem length_of_readEscape {text rest : List Char} {c : Char}
    (h : readEscape text = .ok (c, rest)) : rest.length < text.length := by
  unfold readEscape at h
  split at h
  · cases h
  · next tail =>
    split at h
    · cases h
    · next unit behind hunit =>
      have := length_of_readUnit hunit
      simp only [List.length_cons]
      split at h
      · cases h
      · split at h
        · have := length_of_readSecond h
          omega
        · simp only [Except.ok.injEq, Prod.mk.injEq] at h
          obtain ⟨-, rfl⟩ := h
          omega
  · split at h
    · simp only [Except.ok.injEq, Prod.mk.injEq] at h
      obtain ⟨-, rfl⟩ := h
      simp
    · cases h

/-- A skipped escape takes something off the text. -/
theorem length_of_skipEscape {text rest : List Char} (h : skipEscape text = .ok rest) :
    rest.length < text.length := by
  unfold skipEscape at h
  split at h
  · cases h
  · next tail =>
    cases hunit : readUnit tail with
    | error fault => simp [hunit, Except.map] at h
    | ok result =>
      have := length_of_readUnit hunit
      simp only [hunit, Except.map, Except.ok.injEq] at h
      subst h
      simp only [List.length_cons]
      omega
  · split at h
    · cases h
      simp
    · cases h

/-- The characters up to the closing quote, and the text behind it. -/
def readString (text : List Char) : Except Fault (List Char × List Char) :=
  match text with
  | [] => .error .endInString
  | '"' :: rest => .ok ([], rest)
  | '\\' :: rest =>
    match _taken : readEscape rest with
    | .error fault => .error fault
    | .ok (c, after) => (readString after).map fun (cs, rest) => (c :: cs, rest)
  | c :: rest =>
    if c.toNat < 0x20 then .error .controlCharacter
    else (readString rest).map fun (cs, rest) => (c :: cs, rest)
termination_by text.length
decreasing_by
  · have := length_of_readEscape _taken
    simp only [List.length_cons]
    omega
  · simp

/-- The text behind the closing quote. -/
def skipString (text : List Char) : Except Fault (List Char) :=
  match text with
  | [] => .error .endInString
  | '"' :: rest => .ok rest
  | '\\' :: rest =>
    match _taken : skipEscape rest with
    | .error fault => .error fault
    | .ok after => skipString after
  | c :: rest => if c.toNat < 0x20 then .error .controlCharacter else skipString rest
termination_by text.length
decreasing_by
  · have := length_of_skipEscape _taken
    simp only [List.length_cons]
    omega
  · simp

namespace Reader

/-- Reads a string whose opening quote has been read. -/
def stringBody : Reader String := fun text =>
  (readString text).map fun (cs, rest) => (String.ofList cs, rest)

/-- Skips a string whose opening quote has been read. -/
def skipStringBody : Reader Unit := fun text => (skipString text).map fun rest => ((), rest)

end Reader

end WifiRoster.Json
