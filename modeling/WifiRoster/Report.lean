import WifiRoster.Entry

/-!
# The report

A report has one line for each entry, with fields that are separated by tabs: the text form of the
key, whether the entry is saved, the number of sightings and the best level. A fifth field holds
the descriptions that are not empty, if there are any.
-/

namespace WifiRoster

namespace Entry

/-- The best signal level as it is reported. -/
def levelField (entry : Entry) : String :=
  match entry.best with
  | some best => toString best.level.toInt ++ " dBm"
  | none => "-"

/-- The descriptions of an entry that say something. -/
def descriptions (labels : Labels) (verbose : Bool) (entry : Entry) : List String :=
  [entry.autoConnectDescription labels, entry.meteredDescription labels,
    entry.speedDescription labels, entry.verboseDescription verbose].filter (!·.isEmpty)

/-- The fields of an entry's line. -/
def fields (labels : Labels) (verbose : Bool) (entry : Entry) : List String :=
  let described := entry.descriptions labels verbose
  [entry.key.text, if entry.isSaved then "saved" else "new", toString entry.count ++ " scans",
    entry.levelField] ++ if described.isEmpty then [] else [" / ".intercalate described]

/-- The line of an entry. -/
def line (labels : Labels) (verbose : Bool) (entry : Entry) : String :=
  "\t".intercalate (entry.fields labels verbose) ++ "\n"

end Entry

/-- The lines of the entries, one after the other. -/
def report (labels : Labels) (verbose : Bool) (entries : List Entry) : String :=
  String.join (entries.map (·.line labels verbose))

end WifiRoster
