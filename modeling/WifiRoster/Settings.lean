import WifiRoster.Policy
import WifiRoster.Text.Blank
import WifiRoster.Text.Quoted

/-!
# Settings

What a run goes by is set by environment variables, each of them a truth value with a default.
The first variable whose value says neither yes nor no is the error.
-/

namespace WifiRoster

/-- What a run goes by. -/
structure Settings where
  policy : Policy
  /-- Whether entries are described in detail. -/
  verbose : Bool
deriving DecidableEq, Repr

/-- The settings where nothing is set. -/
def Settings.default : Settings where
  policy := ⟨.single, .full⟩
  verbose := false

/-- What can be set, in the order in which it is looked at. -/
inductive Setting where
  | singleSelection
  | saeSupported
  | suiteBSupported
  | enhancedOpenSupported
  | verbose
deriving DecidableEq, Repr

/-- The environment variable of a setting. -/
def Setting.variableName : Setting → String
  | singleSelection => "BEACONMAP_SINGLE_SELECTION"
  | saeSupported => "BEACONMAP_SAE_SUPPORTED"
  | suiteBSupported => "BEACONMAP_SUITE_B_SUPPORTED"
  | enhancedOpenSupported => "BEACONMAP_ENHANCED_OPEN_SUPPORTED"
  | verbose => "BEACONMAP_VERBOSE"

/-- A variable whose value is no truth value. -/
structure SettingError where
  setting : Setting
  value : String
deriving DecidableEq, Repr

/-- The wording of the error, with the value as it was given. -/
def SettingError.message (error : SettingError) : String :=
  "invalid value " ++ Text.quoted error.value ++ " for " ++ error.setting.variableName ++
    ": expected a boolean"

/-- The truth value that a text says, in any case of its ASCII letters and with blanks around. -/
def truth? (value : String) : Option Bool :=
  let word := String.ofList ((Text.trim value.toList).map Char.toLower)
  if ["1", "true", "yes", "on"].contains word then some true
  else if ["0", "false", "no", "off"].contains word then some false
  else none

/-- The truth value of a setting, or its default where the variable is not set. -/
def Setting.flag (setting : Setting) (lookup : String → Option String) (default : Bool) :
    Except SettingError Bool :=
  match lookup setting.variableName with
  | none => .ok default
  | some value =>
    match truth? value with
    | some flag => .ok flag
    | none => .error ⟨setting, value⟩

/-- The settings of an environment, given by the values of its variables. -/
def Settings.ofEnvironment (lookup : String → Option String) : Except SettingError Settings := do
  let single ← Setting.singleSelection.flag lookup true
  let sae ← Setting.saeSupported.flag lookup true
  let suiteB ← Setting.suiteBSupported.flag lookup true
  let enhancedOpen ← Setting.enhancedOpenSupported.flag lookup true
  let verbose ← Setting.verbose.flag lookup false
  return {
    policy := ⟨if single then .single else .multiple, ⟨sae, suiteB, enhancedOpen⟩⟩
    verbose := verbose }

end WifiRoster
