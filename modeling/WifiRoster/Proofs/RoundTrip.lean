import WifiRoster.Proofs.Json.Records
import WifiRoster.Proofs.KeyText
import WifiRoster.Run

/-!
# Reading back what is written

Scans, platforms and entry keys are read back from the texts that are written for them. What is
written is one of the texts of a value, and a value is read from each of its texts. The main
statement, `written_read_back`, says both of every scan, platform and key; only a key without a name
is refused, as its text form is.
-/

namespace WifiRoster

open Json

namespace Observation

/-- How the members of an observation are written. -/
def rules : List (MemberRule Observation) := [
  { name := "ssid"
    form := fun o => StringForm o.name
    omittable := fun _ => False },
  { name := "capabilities"
    form := fun o => OptionalForm StringForm o.descriptor
    omittable := fun o => o.descriptor = none },
  { name := "level"
    form := fun o => IntegerForm o.level.toInt
    omittable := fun _ => False }]

/-- The draft of an observation some members of which have been met. -/
def draft (o : Observation) (seen : List String) : ObservationDraft where
  name := collected seen "ssid" o.name
  descriptor := collected seen "capabilities" o.descriptor
  level := collected seen "level" o.level

/-- The form of observations reads what their rules say. -/
lemma reads_form (o : Observation) : form.Reads rules o o.draft where
  blank := rfl
  members := by
    refine .cons (.stored rfl (fun _ written => written.takes) (fun _ => rfl) ?_) <|
      .cons (.stored rfl (fun _ written => written.takes) (fun _ => rfl) ?_) <|
      .cons (.stored rfl (fun _ written => written.takes) (fun _ => rfl) ?_) .nil
    all_goals simp [draft, collected]
  unknown := by
    intro name absent seen
    simp [rules] at absent
    simp [draft, collected, absent]
  finish := by
    intro seen complete
    simp [rules] at complete
    obtain ⟨name, descriptor, level⟩ := complete
    simp only [form, draft, required_collected name, getD_collected descriptor,
      required_collected level]
    rfl

/-- A written observation is one of its texts. -/
lemma objectForm_write (o : Observation) : ObjectForm rules o o.write := by
  refine objectForm_object (by decide) <|
    .cons ⟨rfl, stringForm_string o.name⟩ <|
    .cons ⟨rfl, optionalForm_optional stringForm_string o.descriptor⟩ <|
    .cons ⟨rfl, integerForm_integer o.level.toInt⟩ .nil

end Observation

section Scans

variable {scan : List Observation}

/-- A scan is read from every text that it has. -/
lemma readScan_eq {text : String}
    (written : TextForm (SeriesForm (ObjectForm Observation.rules) .list) scan text.toList) :
    readScan text = .ok scan :=
  written.whole_eq fun _ series => RecordForm.Reads.list_takes Observation.reads_form series

/-- A written scan is one of its texts. -/
lemma textForm_writeScan (scan : List Observation) :
    TextForm (SeriesForm (ObjectForm Observation.rules) .list) scan (writeScan scan).toList :=
  textForm_ofList (seriesForm_list Observation.objectForm_write scan)

/-- A run takes over the scan that a text is read as, and tells how many networks in it are
hidden. -/
lemma Run.parseScan_result {text : String} (read : readScan text = .ok scan) (origin : String) :
    (parseScan text origin).result =
      (.ok scan, if 0 < scan.countP (·.name.isEmpty)
        then [.hiddenNetworks (scan.countP (·.name.isEmpty))] else []) := by
  rw [parseScan, read, accept, pure_bind]
  dsimp only
  split
  · rfl
  · rfl

end Scans

namespace Platform

/-- How the members of a platform are written. -/
def rules : List (MemberRule Platform) := [
  { name := "sae_supported"
    form := fun platform => BooleanForm platform.sae
    omittable := fun _ => False },
  { name := "suite_b_supported"
    form := fun platform => BooleanForm platform.suiteB
    omittable := fun _ => False },
  { name := "enhanced_open_supported"
    form := fun platform => BooleanForm platform.enhancedOpen
    omittable := fun _ => False }]

/-- The draft of a platform some members of which have been met. -/
def draft (platform : Platform) (seen : List String) : PlatformDraft where
  sae := collected seen "sae_supported" platform.sae
  suiteB := collected seen "suite_b_supported" platform.suiteB
  enhancedOpen := collected seen "enhanced_open_supported" platform.enhancedOpen

/-- The form of platforms reads what their rules say. -/
lemma reads_form (platform : Platform) : form.Reads rules platform platform.draft where
  blank := rfl
  members := by
    refine .cons (.stored rfl (fun _ written => written.takes) (fun _ => rfl) ?_) <|
      .cons (.stored rfl (fun _ written => written.takes) (fun _ => rfl) ?_) <|
      .cons (.stored rfl (fun _ written => written.takes) (fun _ => rfl) ?_) .nil
    all_goals simp [draft, collected]
  unknown := by
    intro name absent seen
    simp [rules] at absent
    simp [draft, collected, absent]
  finish := by
    intro seen complete
    simp [rules] at complete
    obtain ⟨sae, suiteB, enhancedOpen⟩ := complete
    simp only [form, draft, required_collected sae, required_collected suiteB,
      required_collected enhancedOpen]
    rfl

/-- A written platform is one of its texts. -/
lemma objectForm_write (platform : Platform) : ObjectForm rules platform platform.write := by
  refine objectForm_object (by decide) <|
    .cons ⟨rfl, booleanForm_boolean platform.sae⟩ <|
    .cons ⟨rfl, booleanForm_boolean platform.suiteB⟩ <|
    .cons ⟨rfl, booleanForm_boolean platform.enhancedOpen⟩ .nil

/-- A written platform is read back. -/
lemma read_write (platform : Platform) :
    Reader.whole Platform.read (String.ofList platform.write) = .ok platform :=
  (textForm_ofList platform.objectForm_write).whole_eq fun _ object =>
    platform.reads_form.takes object

end Platform

namespace EntryKey

/-- The text of a key is read back, unless the key has no name. -/
lemma ofText_text (key : EntryKey) :
    ofText key.text = if key.name = "" then .error .emptyName else .ok key := by
  rw [ofText_eq_iff]
  split
  · next unnamed =>
    have text := toList_text key
    rw [unnamed] at text
    exact .emptyName text (separator_not_mem_tag key.protocol)
  · next named => exact reading_ok_iff.2 ⟨rfl, named⟩

/-- A key is read back if it has a name, and refused as unnamed otherwise. -/
lemma read_write (key : EntryKey) :
    Reader.whole EntryKey.read (String.ofList key.write) =
      if key.name = "" then .error (.refused EntryKeyError.emptyName.message) else .ok key := by
  have decoded := ofText_text key
  split at decoded
  · next unnamed =>
    have read : Reader.string key.write = .ok (key.text, []) := by
      have nothing : Follows [] := nofun
      have here := (stringForm_string key.text).takes.here nothing
      rwa [List.append_nil] at here
    rw [if_pos unnamed]
    refine Reader.whole_eq_error ?_
    rw [String.toList_ofList, EntryKey.read, Reader.bind_eq read]
    simp only [decoded]
    rfl
  · next named =>
    rw [if_neg named]
    refine (textForm_ofList (stringForm_string key.text)).whole_eq ?_
    intro text written lead rest spacing follows
    rw [EntryKey.read, Reader.bind_eq (written.takes lead rest spacing follows)]
    simp only [decoded]
    rfl

end EntryKey

/-- Whatever is written is JSON of the right form and is read back. A scan is read back, by itself
and as the scan of a run, and so is a platform. An entry key is read back if it has a name; one
without a name is refused. -/
theorem written_read_back :
    (∀ (scan : List Observation) (origin : String),
      TextForm (SeriesForm (ObjectForm Observation.rules) .list) scan (writeScan scan).toList ∧
      readScan (writeScan scan) = .ok scan ∧
      (Run.parseScan (writeScan scan) origin).result.1 = .ok scan) ∧
    (∀ platform : Platform,
      TextForm (ObjectForm Platform.rules) platform (String.ofList platform.write).toList ∧
      Reader.whole Platform.read (String.ofList platform.write) = .ok platform) ∧
    (∀ key : EntryKey,
      TextForm StringForm key.text (String.ofList key.write).toList ∧
      Reader.whole EntryKey.read (String.ofList key.write) =
        if key.name = "" then .error (.refused EntryKeyError.emptyName.message) else .ok key) := by
  refine ⟨fun scan origin => ?_, fun platform => ?_, fun key => ?_⟩
  · have read := readScan_eq (textForm_writeScan scan)
    refine ⟨textForm_writeScan scan, read, ?_⟩
    rw [Run.parseScan_result read]
  · exact ⟨textForm_ofList platform.objectForm_write, platform.read_write⟩
  · exact ⟨textForm_ofList (stringForm_string key.text), key.read_write⟩

end WifiRoster
