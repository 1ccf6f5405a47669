import WifiRoster.Text.Quoted

/-!
# Tags

Security protocols and key management schemes are written as short fixed tags. Here is what can
be wrong with a text that should be one.
-/

namespace WifiRoster

/-- A text that should be a tag is none. -/
inductive TagError where
  /-- The text is not the tag of a security protocol. -/
  | unknownProtocol (text : String)
  /-- The text is not the tag of a key management scheme. -/
  | unknownKeyManagement (text : String)
deriving DecidableEq, Repr

/-- The wording of the error, with the refused text in quotes. -/
def TagError.message : TagError → String
  | .unknownProtocol text => "unknown security protocol tag: " ++ Text.quoted text
  | .unknownKeyManagement text => "unknown key management tag: " ++ Text.quoted text

end WifiRoster
