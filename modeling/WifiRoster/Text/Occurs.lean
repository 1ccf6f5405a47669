/-!
# Occurrences of one text in another

A token occurs in a text when its letters stand there next to each other, at any position and
regardless of what surrounds them. The main statement, `occurs_iff_infix`, says that the scanner
finds exactly the infixes of the text.
-/

namespace WifiRoster.Text

/-- Whether `token` stands somewhere in the text. -/
def occurs (token : List Char) : List Char → Bool
  | [] => token.isEmpty
  | c :: rest => token.isPrefixOf (c :: rest) || occurs token rest

/-- The scanner finds a token exactly when the token is an infix of the text. -/
theorem occurs_iff_infix {token text : List Char} :
    occurs token text = true ↔ token <:+: text := by
  induction text with
  | nil => simp [occurs]
  | cons c rest ih => simp [occurs, ih, List.infix_cons_iff, List.isPrefixOf_iff_prefix]

end WifiRoster.Text
