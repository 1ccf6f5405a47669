import WifiRoster.Settings

/-!
# Events

What is worth telling about a run, as data. An event has a severity, a message and named fields;
how and whether it is shown is not decided here.
-/

namespace WifiRoster

/-- How much an event matters, the most urgent first. -/
inductive Severity where
  | error
  | warn
  | info
  | debug
  | trace
deriving DecidableEq, Repr

/-- The name of a severity. -/
def Severity.name : Severity → String
  | error => "ERROR"
  | warn => "WARN"
  | info => "INFO"
  | debug => "DEBUG"
  | trace => "TRACE"

/-- The part of the program that an event comes from. -/
inductive Source where
  /-- The attribution of sightings. -/
  | attribution
  /-- The reading of input files. -/
  | input
  /-- The run as a whole. -/
  | run
  /-- The showing of events. -/
  | logging
  /-- The program around the run. -/
  | program
deriving DecidableEq, Repr

/-- The target by which events of a part of the program are selected. -/
def Source.target : Source → String
  | attribution => "beaconmap_entries::mapper"
  | input => "beaconmap_cli::input"
  | run => "beaconmap_cli"
  | logging => "beaconmap_logging"
  | program => "beaconmap"

/-- The value of a field. -/
inductive FieldValue where
  | count (n : Nat)
  | text (s : String)
deriving DecidableEq, Repr

/-- Something that happened during a run. -/
inductive Event where
  /-- A sighting was left out in favour of a sibling. -/
  | coalesced (network : String) (descriptor : Option String) (rule : String)
  /-- A sighting was judged and listed under no key. -/
  | unlisted (network : String) (descriptor : Option String) (usable : ProtocolSet)
  /-- A batch was attributed. -/
  | attributed (mode : Mode) (observations networks unnamed coalesced entries : Nat)
  /-- A scan has observations of hidden networks. -/
  | hiddenNetworks (unnamed : Nat)
  /-- Some saved profiles have no network name. -/
  | unnamedProfiles
  /-- A scan was read from a file. -/
  | scanLoaded (path : String) (count : Nat)
  /-- Saved profiles were read from a file. -/
  | profilesLoaded (path : String) (count : Nat)
  /-- A run came to its end. -/
  | finished (observations entries : Nat) (mode : Mode)
  /-- Events are shown from now on, by default as these directives say. -/
  | loggingStarted (directives : String)
  /-- It is settled what a run goes by. -/
  | settled (settings : Settings)
deriving DecidableEq

namespace Event

/-- The severity of an event. -/
def severity : Event → Severity
  | coalesced .. | attributed .. | hiddenNetworks .. | scanLoaded .. | profilesLoaded ..
  | loggingStarted .. | settled .. => .debug
  | unlisted .. => .trace
  | unnamedProfiles => .warn
  | finished .. => .info

/-- The part of the program that an event comes from. -/
def source : Event → Source
  | coalesced .. | unlisted .. | attributed .. => .attribution
  | hiddenNetworks .. | unnamedProfiles | scanLoaded .. | profilesLoaded .. => .input
  | finished .. => .run
  | loggingStarted .. => .logging
  | settled .. => .program

/-- The message of an event. -/
def message : Event → String
  | coalesced .. => "Coalesced observation into sibling entry"
  | unlisted .. => "Observation matched no entry key"
  | attributed .. => "Mapped scan batch to entry keys"
  | hiddenNetworks .. => "Scan dump contains hidden networks; they will be skipped"
  | unnamedProfiles => "Ignoring saved profiles without an SSID"
  | scanLoaded .. => "Loaded scan dump"
  | profilesLoaded .. => "Loaded saved profiles"
  | finished .. => "Mapped scan dump"
  | loggingStarted .. => "Logging initialized"
  | settled .. => "Resolved configuration"

/-- The diagnostic form of a descriptor that may be missing. -/
def descriptorText : Option String → String
  | none => "None"
  | some descriptor => "Some(" ++ Text.quoted descriptor ++ ")"

/-- The named fields of an event. -/
def fields : Event → List (String × FieldValue)
  | coalesced network descriptor rule =>
    [("network", .text network), ("capabilities", .text (descriptorText descriptor)),
      ("rule", .text rule)]
  | unlisted network descriptor usable =>
    [("network", .text network), ("capabilities", .text (descriptorText descriptor)),
      ("gated", .text usable.braced)]
  | attributed mode observations networks unnamed left entries =>
    [("mode", .text mode.label), ("observations", .count observations),
      ("networks", .count networks), ("unnamed", .count unnamed),
      ("coalesced", .count left), ("entries", .count entries)]
  | hiddenNetworks unnamed => [("unnamed", .count unnamed)]
  | unnamedProfiles => []
  | scanLoaded path count => [("path", .text path), ("count", .count count)]
  | profilesLoaded path count => [("path", .text path), ("count", .count count)]
  | finished observations entries mode =>
    [("observations", .count observations), ("entries", .count entries),
      ("mode", .text mode.label)]
  | loggingStarted directives => [("default_directives", .text directives)]
  | settled settings =>
    [("mode", .text settings.policy.mode.label),
      ("unsupported", .text settings.policy.platform.unsupported.braced),
      ("verbose", .text (if settings.verbose then "true" else "false"))]

/-- The event on one line. -/
def line (event : Event) : String :=
  let fieldText (field : String × FieldValue) : String :=
    field.1 ++ "=" ++ match field.2 with
      | .count n => toString n
      | .text s => Text.quoted s
  " ".intercalate
    (event.severity.name :: (event.source.target ++ ":") :: event.message ::
      event.fields.map fieldText)

end Event

end WifiRoster
