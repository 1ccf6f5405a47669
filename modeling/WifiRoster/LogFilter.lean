import WifiRoster.Event
import WifiRoster.Text.Alphanumeric

/-!
# Log filters

Which events are shown is said by a list of directives, separated by commas. A directive is for all
events or for those whose target starts with a given text, and says the least urgent severity that
is shown of them; without a severity it shows all. A directive starts with a letter, a number or
one of three marks. Of the directives that are for a target, the one with the longest text counts,
and of several such the last.
-/

namespace WifiRoster

/-- What is shown: nothing, or every event at least as urgent as a severity. -/
abbrev Threshold := Option Severity

namespace Threshold

/-- How much a threshold lets through. -/
def rank : Threshold → Nat
  | none => 0
  | some .error => 1
  | some .warn => 2
  | some .info => 3
  | some .debug => 4
  | some .trace => 5

/-- Every threshold, by increasing rank. -/
def all : List Threshold :=
  [none, some .error, some .warn, some .info, some .debug, some .trace]

/-- The name of a threshold. -/
def name : Threshold → String
  | none => "off"
  | some .error => "error"
  | some .warn => "warn"
  | some .info => "info"
  | some .debug => "debug"
  | some .trace => "trace"

/-- The threshold that a text gives by its rank, in decimal digits behind an optional plus sign, or
by its name, in any case of the letters. -/
def ofText? (text : List Char) : Option Threshold :=
  let digits := match text with
    | '+' :: rest => rest
    | _ => text
  if digits.isEmpty || digits.any (!·.isDigit) then
    all.find? fun threshold => threshold.name == String.ofList (text.map Char.toLower)
  else (String.ofList digits).toNat?.bind (all[·]?)

/-- The threshold that lets more through. -/
def max (a b : Threshold) : Threshold := if a.rank < b.rank then b else a

/-- Whether a threshold lets events of a severity through. -/
def shows (threshold : Threshold) (severity : Severity) : Bool :=
  rank (some severity) ≤ threshold.rank

end Threshold

/-- What is shown of some events. -/
structure Directive where
  /-- How the targets start that the directive is for; empty if it is for all. -/
  target : String
  threshold : Threshold
deriving DecidableEq, Repr

namespace Directive

/-- Whether a directive may start with a character, blanks aside. -/
def startsWell (c : Char) : Bool := ['-', ':', '_'].contains c || Text.isAlphanumeric c

/-- Reads a directive without an equals sign: a severity for all events, or a target. Blanks belong
to the target. -/
def ofWord (word : List Char) : Directive :=
  match Threshold.ofText? word with
  | some threshold => ⟨"", threshold⟩
  | none => ⟨.ofList word, some .trace⟩

/-- Reads a directive with an equals sign, if the text is one. No blank may stand in front of the
target or around the severity. -/
def ofParts? (target level : List Char) : Option Directive :=
  if target.head?.any Text.isBlank then none
  else if level.isEmpty then some ⟨.ofList target, some .trace⟩
  else (Threshold.ofText? level).map (⟨.ofList target, ·⟩)

/-- Reads a directive, if the text is one. -/
def ofText? (text : List Char) : Option Directive :=
  if (Text.trim text).head?.any startsWell then
    match text.dropWhile (· != '=') with
    | [] => some (ofWord text)
    | _ :: level => ofParts? (text.takeWhile (· != '=')) level
  else none

/-- Whether the directive is for a target. -/
def applies (directive : Directive) (target : String) : Bool :=
  directive.target.toList.isPrefixOf target.toList

/-- The more specific of the best directive so far and a later one; a tie goes to the later. -/
def moreSpecific : Option Directive → Directive → Option Directive
  | none, candidate => some candidate
  | some best, candidate =>
    if best.target.length ≤ candidate.target.length then some candidate else some best

end Directive

/-- Directives, in the order in which they are given. -/
structure LogFilter where
  directives : List Directive
deriving DecidableEq, Repr

namespace LogFilter

/-- The parts of a text between commas. -/
def parts : List Char → List (List Char)
  | [] => [[]]
  | c :: rest =>
    match parts rest with
    | [] => [[c]]
    | part :: others => if c = ',' then [] :: part :: others else (c :: part) :: others

/-- What each part of a text says, empty parts aside. -/
def readings (text : String) : List (Option Directive) :=
  ((parts text.toList).filter (!·.isEmpty)).map Directive.ofText?

/-- The directives of a text, of which parts that are none are passed over. Where nothing is left,
errors are shown. -/
def lenient (text : String) : LogFilter :=
  match (readings text).filterMap id with
  | [] => ⟨[⟨"", some .error⟩]⟩
  | directives => ⟨directives⟩

/-- The directives of a text, if all of its parts are good. -/
def strict? (text : String) : Option LogFilter := ((readings text).mapM id).map LogFilter.mk

/-- The filter that a text gives, or a fallback where the text is missing or not all good. -/
def ofText (text : Option String) (fallback : String) : LogFilter :=
  (text.bind strict?).getD (lenient fallback)

/-- The most that is shown of any events. -/
def greatest (filter : LogFilter) : Threshold :=
  (filter.directives.map (·.threshold)).foldl Threshold.max none

/-- What is shown of the events of a target; nothing where no directive is for it. -/
def threshold (filter : LogFilter) (target : String) : Threshold :=
  ((filter.directives.filter (·.applies target)).foldl Directive.moreSpecific none).bind
    (·.threshold)

/-- Whether an event is shown. -/
def shows (filter : LogFilter) (event : Event) : Bool :=
  (filter.threshold event.source.target).shows event.severity

/-- A longer target wins over a shorter one, wherever it stands. -/
example :
    let filter := ofText (some "net=trace,warn,net::scan=off") ""
    (["net", "net::scan", "disk"].map fun target => filter.threshold target) =
      [some .trace, none, some .warn] := by
  cbv

end LogFilter

end WifiRoster
