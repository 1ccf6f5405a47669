import WifiRoster.Proofs.Json.Records
import WifiRoster.Run

/-!
# Profile files

A record in a profile file has many spellings: its members come in any order, members with default
values may be left out, others may stand among them, and blank space and escapes are free. Its rules
(`ProfileRecord.rules`) say what all of them have in common. Schemes stand there under their names
in serialized values, and these are a table apart from the tags. The two agree
(`KeyManagement.writtenName_eq_tag`), so that the strings that are read as schemes are their tags
(`KeyManagement.whole_read_iff`).

The main statement, `profile_file_means_its_records`, says that every spelling of a list of records
gives the index of the profiles that the records describe.
-/

namespace WifiRoster

open Json

namespace KeyManagement

/-- A scheme is spelled by any text of the string that is its tag. -/
def Form (k : KeyManagement) (text : List Char) : Prop :=
  ∃ name, ofTag name = .ok k ∧ StringForm name text

/-- The table of the names in serialized values has the schemes that tags stand for. -/
lemma lookup_eq (name : String) :
    (all.map fun k => (k.writtenName, k)).lookup name = (ofTag name).toOption := by
  simp only [writtenName_eq_tag]
  cases tagged : ofTag name with
  | ok k =>
    rw [ofTag_eq_ok_iff.1 tagged]
    cases k <;> decide
  | error error =>
    refine List.lookup_eq_none_iff.2 fun entry hentry => ?_
    obtain ⟨k, -, rfl⟩ := List.mem_map.1 hentry
    refine bne_iff_ne.2 fun same => ?_
    rw [same, ofTag_tag] at tagged
    cases tagged

/-- A scheme is read from each text of its tag. -/
lemma read_takes {k : KeyManagement} {text : List Char} (form : k.Form text) :
    KeyManagement.read.Takes text k := by
  obtain ⟨name, tagged, written⟩ := form
  refine written.variant_takes ?_
  rw [lookup_eq, tagged]
  rfl

/-- A string is read as a scheme exactly when it is the tag of it. -/
lemma whole_read_iff {name text : String} (written : TextForm StringForm name text.toList)
    (k : KeyManagement) :
    Reader.whole KeyManagement.read text = .ok k ↔ ofTag name = .ok k := by
  cases tagged : ofTag name with
  | ok other =>
    rw [written.whole_eq fun inner form => read_takes ⟨name, tagged, form⟩]
    simp
  | error error =>
    have failed : KeyManagement.read text.toList =
        .error (.unknownVariant name (all.map KeyManagement.writtenName)) := by
      generalize text.toList = chars at written
      cases written with
      | @spaced before inner after spacing form _ =>
        rw [KeyManagement.read, form.variant_eq _ spacing, lookup_eq, tagged]
        rfl
    rw [Reader.whole_eq_error failed]
    simp

end KeyManagement

namespace Metering

/-- A metering is read from each text of its name. -/
lemma read_takes {m : Metering} {text : List Char} (written : StringForm m.label text) :
    Metering.read.Takes text m :=
  written.variant_takes (by cases m <;> decide)

end Metering

namespace ProfileRecord

/-- How the members of a profile record are written. -/
def rules : List (MemberRule ProfileRecord) := [
  { name := "ssid"
    form := fun r => StringForm r.name
    omittable := fun _ => False },
  { name := "key_management"
    form := fun r => SeriesForm KeyManagement.Form .list r.keyManagement
    omittable := fun r => r.keyManagement = [] },
  { name := "wep_key"
    form := fun r => BooleanForm r.wepKey
    omittable := fun r => r.wepKey = false },
  { name := "auto_join"
    form := fun r => BooleanForm r.autoJoin
    omittable := fun r => r.autoJoin = true },
  { name := "metered"
    form := fun r => StringForm r.metering.label
    omittable := fun r => r.metering = .auto },
  { name := "credential_ref"
    form := fun r => OptionalForm StringForm r.credential
    omittable := fun r => r.credential = none }]

/-- The draft of a record some members of which have been met. -/
def draft (r : ProfileRecord) (seen : List String) : ProfileDraft where
  name := collected seen "ssid" r.name
  keyManagement := collected seen "key_management" r.keyManagement
  wepKey := collected seen "wep_key" r.wepKey
  autoJoin := collected seen "auto_join" r.autoJoin
  metering := collected seen "metered" r.metering
  credential := collected seen "credential_ref" r.credential

/-- Schemes are read from each text of a list of them. -/
lemma schemes_takes {schemes : List KeyManagement} {text : List Char}
    (series : SeriesForm KeyManagement.Form .list schemes text) :
    (Reader.list KeyManagement.read).Takes text schemes := by
  refine series.list_takes (fun k text form => KeyManagement.read_takes form) fun k text form => ?_
  obtain ⟨name, -, written⟩ := form
  obtain ⟨tail, rfl⟩ := written.exists_cons
  exact ⟨_, tail, rfl, by decide⟩

/-- The form of profile records reads what their rules say. -/
lemma reads_form (r : ProfileRecord) : form.Reads rules r r.draft where
  blank := rfl
  members := by
    refine .cons (.stored rfl (fun _ written => written.takes) (fun _ => rfl) ?_) <|
      .cons (.stored rfl (fun _ written => schemes_takes written) (fun _ => rfl) ?_) <|
      .cons (.stored rfl (fun _ written => written.takes) (fun _ => rfl) ?_) <|
      .cons (.stored rfl (fun _ written => written.takes) (fun _ => rfl) ?_) <|
      .cons (.stored rfl (fun _ written => Metering.read_takes written) (fun _ => rfl) ?_) <|
      .cons (.stored rfl (fun _ written => written.takes) (fun _ => rfl) ?_) .nil
    all_goals simp [draft, collected]
  unknown := by
    intro name absent seen
    simp [rules] at absent
    simp [draft, collected, absent]
  finish := by
    intro seen complete
    simp [rules] at complete
    obtain ⟨name, keyManagement, wepKey, autoJoin, metering, credential⟩ := complete
    simp only [form, draft, required_collected name, getD_collected keyManagement,
      getD_collected wepKey, getD_collected autoJoin, getD_collected metering,
      getD_collected credential]
    rfl

end ProfileRecord

/-- The records of a file are read from every text that they have. -/
lemma readProfiles_eq {records : List ProfileRecord} {text : String}
    (written : TextForm (SeriesForm (ObjectForm ProfileRecord.rules) .list) records text.toList) :
    readProfiles text = .ok records :=
  written.whole_eq fun _ series => RecordForm.Reads.list_takes ProfileRecord.reads_form series

/-- A run takes over the index of the records that a text is read as, and tells when one of them has
no name. -/
lemma Run.parseProfiles_result {records : List ProfileRecord} {text : String}
    (read : readProfiles text = .ok records) (origin : String) :
    (parseProfiles text origin).result =
      (.ok (.ofList (records.map ProfileRecord.toProfile)),
        if records.any (·.name.isEmpty) then [.unnamedProfiles] else []) := by
  rw [parseProfiles, read, accept, pure_bind]
  dsimp only
  split
  · rfl
  · rfl

/-- A profile file means what its records say, however they are spelled. A run takes over the index
of the profiles that the records describe, and the strings that are read as key management schemes
are the tags of these. -/
theorem profile_file_means_its_records :
    (∀ (records : List ProfileRecord) (text origin : String),
      TextForm (SeriesForm (ObjectForm ProfileRecord.rules) .list) records text.toList →
        (Run.parseProfiles text origin).result.1 =
          .ok (.ofList (records.map ProfileRecord.toProfile))) ∧
    (∀ (name text : String) (k : KeyManagement), TextForm StringForm name text.toList →
      (Reader.whole KeyManagement.read text = .ok k ↔ KeyManagement.ofTag name = .ok k)) := by
  refine ⟨fun records text origin written => ?_, fun name text k written => ?_⟩
  · rw [Run.parseProfiles_result (readProfiles_eq written)]
  · exact KeyManagement.whole_read_iff written k

section Sample

/-- A record most members of which have their default values. -/
def homeRecord : ProfileRecord := ⟨"home", [.sae], false, true, .auto, none⟩

/-- An object for the record: its members are out of order, another one stands in front of them, and
the tag of the scheme has an escape in it. -/
def homeObject : String :=
  "\x7b\"x\":[\x7b\"ssid\":1\x7d,null],\"key_management\":[\"S\\u0041E\"],\"ssid\":\"home\"\x7d"

/-- A file with the record alone. -/
def homeFile : String := "[ " ++ homeObject ++ "]\n"

/-- The object is a text of the record. -/
lemma homeObject_form : ObjectForm ProfileRecord.rules homeRecord homeObject.toList := by
  have escaped : CharForm 'A' ['\\', 'u', '0', '0', '4', '1'] :=
    .unit (.digits (hexForm_digitChar 0 (by decide)) (hexForm_digitChar 0 (by decide))
      (hexForm_digitChar 4 (by decide)) (hexForm_digitChar 1 (by decide)))
  have chars : CharsForm "SAE".toList ("S\\u0041E".toList) :=
    CharsForm.cons (charForm_stringChar 'S')
      (CharsForm.cons escaped (CharsForm.cons (charForm_stringChar 'E') .nil))
  have scheme : KeyManagement.sae.Form "\"S\\u0041E\"".toList :=
    ⟨"SAE", rfl, StringForm.quoted chars⟩
  have schemes : SeriesForm KeyManagement.Form .list [.sae] "[\"S\\u0041E\"]".toList :=
    SeriesForm.items (ItemsForm.last .nil scheme .nil)
  have key : UnreadForm "ssid".toList :=
    .plain (by decide) (by decide) (by decide) <| .plain (by decide) (by decide) (by decide) <|
    .plain (by decide) (by decide) (by decide) <| .plain (by decide) (by decide) (by decide) .nil
  have one : LiteralForm ⟨false, [1], [], none⟩ ['1'] :=
    LiteralForm.plain (.whole (DigitsForm.digits (List.cons_ne_nil 1 []) (by decide)) (by decide))
      .none .none
  have inner : ValueForm .value "\x7b\"ssid\":1\x7d".toList :=
    ValueForm.members .object (.last .nil (.object key .nil .nil) (.number one) .nil)
  have null : ValueForm .value "null".toList := .word (by decide)
  have other : ValueForm .value "[\x7b\"ssid\":1\x7d,null]".toList :=
    ValueForm.members .list (.more .nil .list inner .nil (.last .nil .list null .nil))
  have member (name : String) (value : List Char) :
      MemberForm (name, value) (Writer.string name ++ ':' :: value) :=
    .member (stringForm_string name) .nil .nil
  have members : SeriesForm MemberForm .object
      [("x", "[\x7b\"ssid\":1\x7d,null]".toList), ("key_management", "[\"S\\u0041E\"]".toList),
        ("ssid", "\"home\"".toList)] homeObject.toList :=
    SeriesForm.items <|
      .more .nil (member "x" _) .nil <| .more .nil (member "key_management" _) .nil <|
      .last .nil (member "ssid" _) .nil
  have written : MembersForm ProfileRecord.rules homeRecord
      [("x", "[\x7b\"ssid\":1\x7d,null]".toList), ("key_management", "[\"S\\u0041E\"]".toList),
        ("ssid", "\"home\"".toList)] := by
    refine ⟨?_, ?_, ?_, ?_⟩
    · simp
    · simp [ProfileRecord.rules]
      exact ⟨schemes, stringForm_string "home"⟩
    · simp [ProfileRecord.rules]
      exact other
    · simp [ProfileRecord.rules, homeRecord]
  exact ObjectForm.object members written

/-- The file is a text of the list with the record alone. -/
lemma homeFile_form :
    TextForm (SeriesForm (ObjectForm ProfileRecord.rules) .list) [homeRecord] homeFile.toList := by
  have blank : Spacing [' '] := by simp [Spacing]
  have line : Spacing ['\n'] := by simp [Spacing]
  have list : SeriesForm (ObjectForm ProfileRecord.rules) .list [homeRecord]
      ("[ " ++ homeObject ++ "]").toList :=
    SeriesForm.items (ItemsForm.last blank homeObject_form .nil)
  exact TextForm.spaced .nil list line

/-- The file means its record: a profile for WPA3-Personal with all the defaults. -/
theorem home_file_means_its_record :
    TextForm (SeriesForm (ObjectForm ProfileRecord.rules) .list) [homeRecord] homeFile.toList ∧
    (Run.parseProfiles homeFile "profiles.json").result.1 =
      .ok (.ofList [⟨"home", .sae, none, true, .auto⟩]) ∧
    TextForm StringForm "SAE" "\"SAE\"".toList ∧
    Reader.whole KeyManagement.read "\"SAE\"" = .ok .sae := by
  have tag : TextForm StringForm "SAE" "\"SAE\"".toList :=
    textForm_ofList (stringForm_string "SAE")
  exact ⟨homeFile_form, profile_file_means_its_records.1 _ _ _ homeFile_form, tag,
    (profile_file_means_its_records.2 _ _ .sae tag).2 rfl⟩

end Sample

end WifiRoster
