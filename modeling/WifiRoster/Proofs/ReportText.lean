import Mathlib.Data.List.Forall2
import Std.Data.String.ToInt
import WifiRoster.Proofs.KeyText
import WifiRoster.Report

/-!
# Reading a report back

A report parts its lines by newlines and the fields of a line by tabs. Names, descriptors and labels
are the only texts in it that could hold such a character themselves (`not_mem_fields_iff`). Where
none of them does, the report splits into its lines and each line into its fields again, and the
fields tell the key, whether it is saved, the count and the best level (`Entry.ToldBy`). The main
statement, `report_read_back`, says so of every list of entries, and that two lists with the same
report agree in all of that.
-/

namespace WifiRoster

/-- The characters that part lines and fields. -/
def Text.separators : List Char := ['\t', '\n']

/-- The parts of a text between the places where a separator stands. -/
def Text.parts (separator : Char) (text : String) : List String :=
  (text.toList.splitOn separator).map String.ofList

/-- No label holds the character. -/
structure Labels.Lacks (c : Char) (labels : Labels) : Prop where
  autoConnectOff : c ∉ labels.autoConnectOff.toList
  metered : c ∉ labels.metered.toList
  unmetered : c ∉ labels.unmetered.toList

/-- Neither the name nor the descriptor of a sighting holds the character. -/
structure Sighting.Lacks (c : Char) (sighting : Sighting) : Prop where
  name : c ∉ sighting.name.toList
  descriptor : ∀ descriptor ∈ sighting.observation.descriptor, c ∉ descriptor.toList

/-- Neither the name of the key nor the best sighting of an entry holds the character. -/
structure Entry.Lacks (c : Char) (entry : Entry) : Prop where
  name : c ∉ entry.key.name.toList
  best : ∀ best ∈ entry.best, best.Lacks c

/-- What the fields of a line tell about its entry. -/
structure Entry.ToldBy (labels : Labels) (verbose : Bool) (entry : Entry)
    (fields : List String) : Prop where
  length : fields.length = 4 ∨ fields.length = 5
  key : fields[0]? = some entry.key.text
  readKey : entry.key.name ≠ "" → fields[0]?.map EntryKey.ofText = some (.ok entry.key)
  saved : fields[1]? = some "saved" ↔ entry.profile.isSome
  count : fields[2]? = some (toString entry.count ++ " scans")
  level : ∀ best, entry.best = some best → fields[3]? = some (toString best.level.toInt ++ " dBm")
  noLevel : fields[3]? = some "-" ↔ entry.best = none
  described : fields.length = 5 ↔
    ∃ description ∈ [entry.autoConnectDescription labels, entry.meteredDescription labels,
      entry.speedDescription labels, entry.verboseDescription verbose], description ≠ ""
  descriptions : fields.length = 5 → fields[4]? = some (" / ".intercalate
    ([entry.autoConnectDescription labels, entry.meteredDescription labels,
      entry.speedDescription labels, entry.verboseDescription verbose].filter (· ≠ "")))

/-- The key, whether it is saved, the number of sightings and the best level. -/
def Entry.gist (entry : Entry) : EntryKey × Bool × Nat × Option Int32 :=
  (entry.key, entry.isSaved, entry.count, entry.best.map (·.level))

section Texts

variable {c : Char}

/-- A character that is not in between is missing from joined texts if it is missing from each. -/
lemma Text.not_mem_intercalate {between : String} (hc : c ∉ between.toList)
    {texts : List String} :
    c ∉ (between.intercalate texts).toList ↔ ∀ text ∈ texts, c ∉ text.toList := by
  induction texts with
  | nil => simp
  | cons text rest ih =>
    cases rest with
    | nil => simp
    | cons next rest =>
      rw [String.intercalate_cons_cons, String.toList_append, String.toList_append,
        List.mem_append, List.mem_append, not_or, not_or, ih, List.forall_mem_cons (a := text)]
      simp only [hc, not_false_eq_true, and_true]

/-- There are two separators, the tab and the newline. -/
lemma Text.mem_separators : c ∈ Text.separators ↔ c = '\t' ∨ c = '\n' := by
  simp [Text.separators]

/-- The fixed words of a report hold no separator. -/
lemma Text.not_mem_word (hc : c ∈ Text.separators) {word : String}
    (hword : word ∈ [EntryKey.lead, ",", "saved", "new", " scans", " dBm", "-", ", ", "\x7b", "\x7d",
      "[", " scans]", " ", " / ", ""]) : c ∉ word.toList := by
  obtain rfl | rfl := Text.mem_separators.1 hc
  all_goals
    revert word
    decide

/-- No tag has a separator in it. -/
lemma Text.not_mem_tag (hc : c ∈ Text.separators) (p : Protocol) : c ∉ p.tag.toList := by
  obtain rfl | rfl := Text.mem_separators.1 hc
  all_goals cases p <;> decide

/-- The English labels have no separator in them. -/
lemma Labels.english_lacks (hc : c ∈ Text.separators) : Labels.english.Lacks c := by
  obtain rfl | rfl := Text.mem_separators.1 hc
  all_goals exact ⟨by decide, by decide, by decide⟩

/-- Decimals are made of digits. -/
lemma Text.not_mem_natural (hc : c ∈ Text.separators) (n : Nat) : c ∉ (toString n).toList := by
  intro hmem
  rw [Nat.toString_eq_repr, Nat.toList_repr] at hmem
  have digit := Nat.isDigit_of_mem_toDigits (by decide) (by decide) hmem
  obtain rfl | rfl := Text.mem_separators.1 hc
  all_goals cases digit

/-- Negative decimals have a minus sign in front. -/
lemma Text.not_mem_integer (hc : c ∈ Text.separators) (n : Int) : c ∉ (toString n).toList := by
  cases n with
  | ofNat n => exact not_mem_natural hc n
  | negSucc n =>
    intro hmem
    rw [show toString (Int.negSucc n) = "-" ++ toString (n + 1) from rfl, String.toList_append] at hmem
    obtain hsign | hdigits := List.mem_append.1 hmem
    · exact not_mem_word hc (by simp) hsign
    · exact not_mem_natural hc _ hdigits

/-- Fields with a separator between them split into themselves. -/
lemma Text.parts_intercalate {fields : List String} (some : fields ≠ [])
    (plain : ∀ field ∈ fields, c ∉ field.toList) :
    Text.parts c ((String.singleton c).intercalate fields) = fields := by
  rw [Text.parts, String.toList_intercalate, String.toList_singleton, List.splitOn_intercalate]
  · rw [List.map_map]
    simp
  · intro field hfield
    obtain ⟨text, htext, rfl⟩ := List.mem_map.1 hfield
    exact plain text htext
  · simpa using some

/-- Lines that each end in a separator split into themselves and an empty rest. -/
lemma Text.parts_lines {lines : List String} (plain : ∀ line ∈ lines, c ∉ line.toList) :
    Text.parts c (String.join (lines.map (· ++ String.singleton c))) = lines ++ [""] := by
  induction lines with
  | nil => rfl
  | cons line rest ih =>
    obtain ⟨hline, hrest⟩ := List.forall_mem_cons.1 plain
    have split := List.splitOn_append_cons_self_of_not_mem hline
      (String.join (rest.map (· ++ String.singleton c))).toList
    rw [Text.parts] at ih ⊢
    rw [List.map_cons, String.join_cons, String.toList_append, String.toList_append,
      String.toList_singleton, List.append_assoc, List.singleton_append, split, List.map_cons,
      ih hrest, String.ofList_toList, List.cons_append]

end Texts

section Fields

variable {c : Char} {labels : Labels} {verbose : Bool} {entry : Entry}

/-- The text of a key has the separators of its name. -/
lemma EntryKey.not_mem_text (hc : c ∈ Text.separators) {key : EntryKey} :
    c ∉ key.text.toList ↔ c ∉ key.name.toList := by
  have hlead : c ∉ lead.toList := Text.not_mem_word hc (by simp)
  have hcomma : c ∉ ",".toList := Text.not_mem_word hc (by simp)
  simp only [text, String.toList_append, List.mem_append, not_or, hlead, hcomma,
    Text.not_mem_tag hc key.protocol, not_false_eq_true, true_and, and_true]

/-- The field of the level has no separator in it. -/
lemma Entry.not_mem_levelField (hc : c ∈ Text.separators) (entry : Entry) :
    c ∉ entry.levelField.toList := by
  rw [levelField]
  split
  · rw [String.toList_append, List.mem_append, not_or]
    exact ⟨Text.not_mem_integer hc _, Text.not_mem_word hc (by simp)⟩
  · exact Text.not_mem_word hc (by simp)

/-- The details of a sighting have no other separators than the sighting. -/
lemma Entry.not_mem_sightingDetails (hc : c ∈ Text.separators) {sighting : Sighting} :
    c ∉ (Entry.sightingDetails sighting).toList ↔ sighting.Lacks c := by
  have hopen : c ∉ "\x7b".toList := Text.not_mem_word hc (by simp)
  have hclose : c ∉ "\x7d".toList := Text.not_mem_word hc (by simp)
  have hlevel := Text.not_mem_integer hc sighting.level.toInt
  rw [sightingDetails, String.toList_append, String.toList_append, List.mem_append, List.mem_append,
    not_or, not_or, Text.not_mem_intercalate (Text.not_mem_word hc (by simp))]
  constructor
  · rintro ⟨⟨-, plain⟩, -⟩
    refine ⟨plain _ (.head _), fun descriptor hdescriptor => ?_⟩
    cases hempty : descriptor.isEmpty with
    | true => simp [String.isEmpty_iff.1 hempty]
    | false => exact plain _ (by simp [Option.mem_def.1 hdescriptor, hempty])
  · rintro ⟨hname, hdescriptor⟩
    refine ⟨⟨hopen, fun text htext => ?_⟩, hclose⟩
    rcases List.mem_append.1 htext with htext | htext
    · simp only [List.mem_cons, List.not_mem_nil, or_false] at htext
      obtain rfl | rfl := htext
      · exact hname
      · exact hlevel
    · split at htext
      · next descriptor found =>
        split at htext
        · cases htext
        · obtain rfl := List.mem_singleton.1 htext
          exact hdescriptor _ found
      · cases htext

/-- The verbose description has the separators of the strongest sighting, if details are asked for.
-/
lemma Entry.not_mem_verboseDescription (hc : c ∈ Text.separators) :
    c ∉ (entry.verboseDescription verbose).toList ↔
      (verbose = true → ∀ best ∈ entry.best, best.Lacks c) := by
  cases verbose with
  | false =>
    have silent : c ∉ "".toList := Text.not_mem_word hc (by simp)
    exact iff_of_true silent nofun
  | true =>
    have blank : c ∉ " ".toList := Text.not_mem_word hc (by simp)
    have hcount : ∀ text ∈ (if entry.count = 0 then [] else
        ["[" ++ toString entry.count ++ " scans]"]), c ∉ text.toList := by
      split
      · nofun
      · rintro _ (_ | ⟨_, ⟨⟩⟩)
        rw [String.toList_append, String.toList_append, List.mem_append, List.mem_append, not_or,
          not_or]
        exact ⟨⟨Text.not_mem_word hc (by simp), Text.not_mem_natural hc _⟩,
          Text.not_mem_word hc (by simp)⟩
    simp only [verboseDescription, if_true, Text.not_mem_intercalate blank, List.forall_mem_append,
      List.forall_mem_map, Option.mem_toList, not_mem_sightingDetails hc, forall_const,
      Option.mem_def]
    exact and_iff_left hcount

/-- A label stands in a description or the description is empty. -/
lemma Entry.not_mem_labelled (hc : c ∈ Text.separators) (words : labels.Lacks c)
    (entry : Entry) :
    c ∉ (entry.autoConnectDescription labels).toList ∧
      c ∉ (entry.meteredDescription labels).toList ∧
      c ∉ (entry.speedDescription labels).toList := by
  have silent : c ∉ "".toList := Text.not_mem_word hc (by simp)
  refine ⟨?_, ?_, silent⟩
  · rw [autoConnectDescription]
    split
    · split
      · exact silent
      · exact words.autoConnectOff
    · exact silent
  · rw [meteredDescription]
    split
    · exact words.metered
    · exact words.unmetered
    · exact silent
    · exact silent

/-- The fields of a line hold a separator only where a name or a descriptor does. -/
lemma Entry.not_mem_fields_iff (hc : c ∈ Text.separators) (words : labels.Lacks c) :
    (∀ field ∈ entry.fields labels verbose, c ∉ field.toList) ↔
      c ∉ entry.key.name.toList ∧ (verbose = true → ∀ best ∈ entry.best, best.Lacks c) := by
  have hsaved : c ∉ (if entry.isSaved then "saved" else "new").toList := by
    split
    · exact Text.not_mem_word hc (by simp)
    · exact Text.not_mem_word hc (by simp)
  have hcount : c ∉ (toString entry.count ++ " scans").toList := by
    rw [String.toList_append, List.mem_append, not_or]
    exact ⟨Text.not_mem_natural hc _, Text.not_mem_word hc (by simp)⟩
  have hjoined : (∀ field ∈ (if (entry.descriptions labels verbose).isEmpty then [] else
      [" / ".intercalate (entry.descriptions labels verbose)]), c ∉ field.toList) ↔
        ∀ description ∈ entry.descriptions labels verbose, c ∉ description.toList := by
    split
    · next none => simp [List.isEmpty_iff.1 none]
    · rw [List.forall_mem_singleton, Text.not_mem_intercalate (Text.not_mem_word hc (by simp))]
  have hdescriptions : (∀ description ∈ entry.descriptions labels verbose,
      c ∉ description.toList) ↔ (verbose = true → ∀ best ∈ entry.best, best.Lacks c) := by
    obtain ⟨hauto, hmetered, hspeed⟩ := not_mem_labelled hc words entry
    rw [← not_mem_verboseDescription hc]
    constructor
    · intro plain
      cases hempty : (entry.verboseDescription verbose).isEmpty with
      | true => simp [String.isEmpty_iff.1 hempty]
      | false => exact plain _ (List.mem_filter.2 ⟨by simp, by simp [hempty]⟩)
    · intro hverbose description hmem
      have hmem := (List.mem_filter.1 hmem).1
      simp only [List.mem_cons, List.not_mem_nil, or_false] at hmem
      obtain rfl | rfl | rfl | rfl := hmem
      · exact hauto
      · exact hmetered
      · exact hspeed
      · exact hverbose
  simp only [fields, List.forall_mem_append, hjoined, hdescriptions, List.forall_mem_cons,
    EntryKey.not_mem_text hc, hsaved, hcount, not_mem_levelField hc, List.not_mem_nil, forall_const,
    IsEmpty.forall_iff, and_true, not_false_eq_true]

/-- The fields of an entry without a separator have none. -/
lemma Entry.Lacks.not_mem_fields (hc : c ∈ Text.separators) (words : labels.Lacks c)
    (lacks : entry.Lacks c) : ∀ field ∈ entry.fields labels verbose, c ∉ field.toList :=
  (not_mem_fields_iff hc words).2 ⟨lacks.name, fun _ => lacks.best⟩

/-- The field of the level is a dash exactly when nothing was seen. -/
lemma Entry.levelField_eq_dash_iff : entry.levelField = "-" ↔ entry.best = none := by
  rw [levelField]
  split
  · next best found =>
    -- a level has its unit behind it, and so more than one character
    refine iff_of_false (fun same => ?_) (by simp [found])
    have lengths := congrArg String.length same
    rw [String.length_append] at lengths
    have unit : " dBm".length = 4 := rfl
    have dash : "-".length = 1 := rfl
    omega
  · next absent => exact iff_of_true rfl absent

/-- The descriptions are those of the four that are not empty. -/
lemma Entry.descriptions_eq (labels : Labels) (verbose : Bool) (entry : Entry) :
    entry.descriptions labels verbose =
      [entry.autoConnectDescription labels, entry.meteredDescription labels,
        entry.speedDescription labels, entry.verboseDescription verbose].filter (· ≠ "") := by
  rw [descriptions]
  refine List.filter_congr fun description _ => ?_
  cases hempty : description.isEmpty with
  | true => simp [String.isEmpty_iff.1 hempty]
  | false => simpa using fun same => by simp [same] at hempty

/-- Without descriptions there are four fields. -/
lemma Entry.fields_of_silent (silent : entry.descriptions labels verbose = []) :
    entry.fields labels verbose = [entry.key.text, if entry.isSaved then "saved" else "new",
      toString entry.count ++ " scans", entry.levelField] := by
  simp only [fields, silent, List.isEmpty_nil, if_true, List.append_nil]

/-- The descriptions make up a fifth field. -/
lemma Entry.fields_of_described (described : entry.descriptions labels verbose ≠ []) :
    entry.fields labels verbose = [entry.key.text, if entry.isSaved then "saved" else "new",
      toString entry.count ++ " scans", entry.levelField,
      " / ".intercalate (entry.descriptions labels verbose)] := by
  simp only [fields, List.isEmpty_iff, described, if_false]
  rfl

/-- The fields of an entry tell what they should. -/
lemma Entry.toldBy_fields (labels : Labels) (verbose : Bool) (entry : Entry) :
    entry.ToldBy labels verbose (entry.fields labels verbose) := by
  have described : (entry.fields labels verbose).length = 5 ↔
      entry.descriptions labels verbose ≠ [] := by
    by_cases silent : entry.descriptions labels verbose = []
    · rw [fields_of_silent silent]
      exact iff_of_false (by simp) (fun some => some silent)
    · rw [fields_of_described silent]
      exact iff_of_true rfl silent
  refine ⟨?_, rfl, fun named => ?_, ?_, rfl, fun best found => ?_, ?_, ?_, fun five => ?_⟩
  · by_cases silent : entry.descriptions labels verbose = []
    · exact .inl (by rw [fields_of_silent silent]; rfl)
    · exact .inr (described.2 silent)
  · exact congrArg some (EntryKey.ofText_eq_iff.2 (EntryKey.reading_ok_iff.2 ⟨rfl, named⟩))
  · show some (if entry.isSaved then "saved" else "new") = some "saved" ↔ entry.isSaved = true
    split
    · next saved => exact iff_of_true rfl saved
    · next new => exact iff_of_false (by decide) new
  · show some entry.levelField = _
    rw [levelField, found]
  · show some entry.levelField = some "-" ↔ entry.best = none
    rw [Option.some.injEq, levelField_eq_dash_iff]
  · rw [described, descriptions_eq, ne_eq, List.filter_eq_nil_iff]
    simp only [decide_eq_true_eq, not_forall, not_not, exists_prop]
  · rw [← descriptions_eq, fields_of_described (described.1 five)]
    rfl

/-- What the fields of two entries tell alike is alike. -/
lemma Entry.ToldBy.gist_eq {other : Entry} {words : Labels} {details : Bool} {fields : List String}
    (told : entry.ToldBy labels verbose fields) (same : other.ToldBy words details fields) :
    entry.gist = other.gist := by
  have key : entry.key = other.key :=
    EntryKey.text_injective (Option.some.inj (told.key.symm.trans same.key))
  have saved : entry.isSaved = other.isSaved :=
    Bool.eq_iff_iff.2 (told.saved.symm.trans same.saved)
  have count : entry.count = other.count := by
    have texts := Option.some.inj (told.count.symm.trans same.count)
    rw [String.append_left_inj, Nat.toString_eq_repr, Nat.toString_eq_repr] at texts
    exact Nat.repr_inj.1 texts
  have level : entry.best.map (·.level) = other.best.map (·.level) := by
    cases found : entry.best with
    | none => rw [same.noLevel.1 (told.noLevel.2 found)]
    | some best =>
      cases hother : other.best with
      | none =>
        rw [told.noLevel.1 (same.noLevel.2 hother)] at found
        cases found
      | some second =>
        have texts := Option.some.inj ((told.level _ found).symm.trans (same.level _ hother))
        rw [String.append_left_inj, Int.toString_eq_repr, Int.toString_eq_repr] at texts
        exact congrArg some (Int32.toInt_inj.1 (Int.repr_inj.1 texts))
  simp only [gist, key, saved, count, level]

end Fields

/-- The line of an entry without its newline. -/
def Entry.row (labels : Labels) (verbose : Bool) (entry : Entry) : String :=
  (String.singleton '\t').intercalate (entry.fields labels verbose)

/-- A report is its rows, each of which ends in a newline. -/
lemma report_eq_join (labels : Labels) (verbose : Bool) (entries : List Entry) :
    report labels verbose entries =
      String.join ((entries.map (·.row labels verbose)).map (· ++ String.singleton '\n')) := by
  rw [report, List.map_map]
  rfl

/-- Where no name, descriptor or label holds a separator, a report splits into lines that tell of
its entries, one by one. -/
lemma report_parts {labels : Labels} (verbose : Bool) {entries : List Entry}
    (words : ∀ c ∈ Text.separators, labels.Lacks c)
    (lacks : ∀ entry ∈ entries, ∀ c ∈ Text.separators, entry.Lacks c) :
    Text.parts '\n' (report labels verbose entries) =
        entries.map (·.row labels verbose) ++ [""] ∧
      ∀ entry ∈ entries,
        entry.ToldBy labels verbose (Text.parts '\t' (entry.row labels verbose)) := by
  have tab : '\t' ∈ Text.separators := .head _
  have newline : '\n' ∈ Text.separators := .tail _ (.head _)
  constructor
  · rw [report_eq_join, Text.parts_lines]
    intro line hline
    obtain ⟨entry, hentry, rfl⟩ := List.mem_map.1 hline
    rw [Entry.row, Text.not_mem_intercalate (by decide)]
    exact (lacks entry hentry _ newline).not_mem_fields newline (words _ newline)
  · intro entry hentry
    have whole : Text.parts '\t' (entry.row labels verbose) = entry.fields labels verbose :=
      Text.parts_intercalate (by simp [Entry.fields])
        ((lacks entry hentry _ tab).not_mem_fields tab (words _ tab))
    rw [whole]
    exact Entry.toldBy_fields labels verbose entry

/-- The same rows tell the same of the entries. -/
lemma Entry.map_gist_eq {labels words : Labels} {verbose details : Bool}
    {entries others : List Entry}
    (told : ∀ entry ∈ entries,
      entry.ToldBy labels verbose (Text.parts '\t' (entry.row labels verbose)))
    (retold : ∀ other ∈ others,
      other.ToldBy words details (Text.parts '\t' (other.row words details)))
    (rows : entries.map (·.row labels verbose) = others.map (·.row words details)) :
    entries.map Entry.gist = others.map Entry.gist := by
  induction entries generalizing others with
  | nil => rw [List.map_eq_nil_iff.1 rows.symm]
  | cons entry rest ih =>
    cases others with
    | nil => cases rows
    | cons other others =>
      obtain ⟨hentry, hrest⟩ := List.forall_mem_cons.1 told
      obtain ⟨hother, hothers⟩ := List.forall_mem_cons.1 retold
      obtain ⟨(row : entry.row labels verbose = other.row words details), rows⟩ :=
        List.cons.inj rows
      rw [← row] at hother
      rw [List.map_cons, List.map_cons, hentry.gist_eq hother, ih hrest hothers rows]

/-- A report is read back. Where no name, descriptor or label holds a tab or a newline, it splits at
newlines into one line for each entry, in order, and an empty rest, and each line splits at tabs
into fields that tell of its entry. Two such reports with the same text are of entries with the same
keys, of which the same are saved, with the same counts and best levels. -/
theorem report_read_back (labels : Labels) (verbose : Bool) (entries : List Entry)
    (words : ∀ c ∈ Text.separators, labels.Lacks c)
    (lacks : ∀ entry ∈ entries, ∀ c ∈ Text.separators, entry.Lacks c) :
    (∃ lines : List String,
      Text.parts '\n' (report labels verbose entries) = lines ++ [""] ∧
      List.Forall₂ (fun entry line => entry.ToldBy labels verbose (Text.parts '\t' line))
        entries lines) ∧
    ∀ (labels' : Labels) (verbose' : Bool) (entries' : List Entry),
      (∀ c ∈ Text.separators, labels'.Lacks c) →
      (∀ entry ∈ entries', ∀ c ∈ Text.separators, entry.Lacks c) →
      report labels verbose entries = report labels' verbose' entries' →
      entries.map Entry.gist = entries'.map Entry.gist := by
  obtain ⟨split, told⟩ := report_parts verbose words lacks
  refine ⟨⟨_, split, List.forall₂_map_right_iff.2 (List.forall₂_same.2 told)⟩, ?_⟩
  intro labels' verbose' entries' words' lacks' same
  obtain ⟨split', told'⟩ := report_parts verbose' words' lacks'
  rw [same, split'] at split
  exact (Entry.map_gist_eq told' told (List.append_cancel_right split)).symm

/-- A saved network with details and one without sightings; a credential is not told. -/
theorem report_read_back_home :
    let home (credential : Option String) : Entry :=
      { key := ⟨"Home", .psk⟩
        profile := some ⟨"Home", .psk, credential, false, .metered⟩
        best := some ⟨0, "Home", some "[PSK]", -42⟩
        count := 2 }
    let cafe : Entry := { key := ⟨"Cafe", .owe⟩, profile := none, best := none, count := 0 }
    (∀ c ∈ Text.separators, Labels.english.Lacks c) ∧
      (∀ credential, ∀ entry ∈ [home credential, cafe], ∀ c ∈ Text.separators, entry.Lacks c) ∧
      (∃ first second : String,
        Text.parts '\n' (report .english true [home none, cafe]) = [first, second, ""] ∧
        (home none).ToldBy .english true (Text.parts '\t' first) ∧
        cafe.ToldBy .english true (Text.parts '\t' second)) ∧
      report .english true [home none, cafe] = report .english true [home (some "vault"), cafe] ∧
      [home none, cafe].map Entry.gist = [home (some "vault"), cafe].map Entry.gist := by
  intro home cafe
  have words : ∀ c ∈ Text.separators, Labels.english.Lacks c := fun _ => Labels.english_lacks
  have plain : ∀ c ∈ Text.separators,
      c ∉ "Home".toList ∧ c ∉ "Cafe".toList ∧ c ∉ "[PSK]".toList := by
    intro c hc
    obtain rfl | rfl := Text.mem_separators.1 hc
    all_goals decide
  have lacks : ∀ credential, ∀ entry ∈ [home credential, cafe], ∀ c ∈ Text.separators,
      entry.Lacks c := by
    intro credential entry hentry c hc
    obtain ⟨hhome, hcafe, hpsk⟩ := plain c hc
    simp only [List.mem_cons, List.not_mem_nil, or_false] at hentry
    obtain rfl | rfl := hentry
    · refine ⟨hhome, ?_⟩
      rintro _ ⟨⟩
      refine ⟨hhome, ?_⟩
      rintro _ ⟨⟩
      exact hpsk
    · exact ⟨hcafe, nofun⟩
  have same : report .english true [home none, cafe] =
      report .english true [home (some "vault"), cafe] := rfl
  obtain ⟨⟨lines, split, told⟩, agree⟩ :=
    report_read_back .english true [home none, cafe] words (lacks none)
  refine ⟨words, lacks, ?_, same, agree .english true _ words (lacks _) same⟩
  cases told with
  | cons first rest =>
    cases rest with
    | cons second rest =>
      cases rest
      exact ⟨_, _, split, first, second⟩

end WifiRoster
