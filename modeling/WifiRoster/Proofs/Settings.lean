import Mathlib.Data.List.TakeWhile
import WifiRoster.Settings

/-!
# Settings from an environment

A value says a truth value if it is one of eight words between blanks, in any case of its ASCII
letters (`Says`). A variable that is not set stands for its default.

The variables are looked at one after the other, and each of them either adds its flag or ends the
whole (`flag_bind`). So the settings of an environment are there if nothing is wrong with any
variable, and each of them then goes by its own variable alone; otherwise the first variable that
something is wrong with is the error (`Settings.ofEnvironment_all_or_nothing`).
-/

namespace WifiRoster

namespace Text

/-- A text falls into the part that trimming leaves and blanks on either side. -/
lemma exists_trim (text : List Char) :
    ∃ before after, text = before ++ trim text ++ after ∧
      (∀ c ∈ before, isBlank c = true) ∧ ∀ c ∈ after, isBlank c = true := by
  let rest := text.dropWhile isBlank
  refine ⟨text.takeWhile isBlank, (rest.reverse.takeWhile isBlank).reverse, ?_, ?_, ?_⟩
  · have ends : trim text ++ (rest.reverse.takeWhile isBlank).reverse = rest := by
      rw [trim, ← List.reverse_append, List.takeWhile_append_dropWhile, List.reverse_reverse]
    rw [List.append_assoc, ends, List.takeWhile_append_dropWhile]
  · exact fun c hc => List.mem_takeWhile_imp hc
  · exact fun c hc => List.mem_takeWhile_imp (List.mem_reverse.1 hc)

/-- There are no blanks to drop from what has none. -/
lemma dropWhile_isBlank {word : List Char} (hword : ∀ c ∈ word, isBlank c = false) :
    word.dropWhile isBlank = word := by
  cases word with
  | nil => rfl
  | cons c rest => rw [List.dropWhile_cons_of_neg (by simp [hword c (.head _)])]

/-- What has no blank in it is what trimming leaves of it between blanks. -/
lemma trim_append {before word after : List Char} (hbefore : ∀ c ∈ before, isBlank c = true)
    (hword : ∀ c ∈ word, isBlank c = false) (hafter : ∀ c ∈ after, isBlank c = true) :
    trim (before ++ word ++ after) = word := by
  rw [trim, List.append_assoc, List.dropWhile_append_of_pos hbefore]
  cases word with
  | nil => rw [List.nil_append, List.dropWhile_eq_nil_iff.2 hafter]; rfl
  | cons c rest =>
    have start : ((c :: rest) ++ after).dropWhile isBlank = (c :: rest) ++ after := by
      rw [List.cons_append, List.dropWhile_cons_of_neg (by simp [hword c (.head _)])]
    rw [start, List.reverse_append,
      List.dropWhile_append_of_pos fun d hd => hafter d (List.mem_reverse.1 hd),
      dropWhile_isBlank fun d hd => hword d (List.mem_reverse.1 hd), List.reverse_reverse]

end Text

/-- The words for a truth value. -/
def truthWords : Bool → List String
  | true => ["1", "true", "yes", "on"]
  | false => ["0", "false", "no", "off"]

/-- The value is a word for the truth value, in any case of its ASCII letters and with blanks
around. -/
def Says (value : String) (flag : Bool) : Prop :=
  ∃ before word after, value.toList = before ++ word ++ after ∧
    (∀ c ∈ before, Text.isBlank c = true) ∧ (∀ c ∈ after, Text.isBlank c = true) ∧
    String.ofList (word.map Char.toLower) ∈ truthWords flag

section Words

variable {value : String} {flag : Bool}

/-- Lowering leaves blanks as they are. -/
lemma toLower_of_isBlank {c : Char} (blank : Text.isBlank c = true) : c.toLower = c := by
  have fixed : Text.blanks.all (fun c => c.toLower = c) = true := by decide
  exact of_decide_eq_true (List.all_eq_true.1 fixed c (List.contains_iff_mem.1 blank))

/-- A word for a truth value has no blank in it. -/
lemma not_isBlank_of_truthWord {word : List Char}
    (known : String.ofList (word.map Char.toLower) ∈ truthWords flag) :
    ∀ c ∈ word, Text.isBlank c = false := by
  intro c hc
  refine Bool.eq_false_iff.2 fun blank => ?_
  have letters : ∀ word ∈ truthWords flag, word.toList.any Text.isBlank = false := by
    cases flag <;> decide
  -- a blank is left as it is by lowering, so it would stand in the word
  have lowered : c ∈ (String.ofList (word.map Char.toLower)).toList := by
    rw [String.toList_ofList]
    exact List.mem_map.2 ⟨c, hc, toLower_of_isBlank blank⟩
  exact List.any_eq_false.1 (letters _ known) c lowered blank

/-- A value is read as a truth value if it is a word for it once it is trimmed and lowered. -/
lemma truth?_eq_some_iff :
    truth? value = some flag ↔
      String.ofList ((Text.trim value.toList).map Char.toLower) ∈ truthWords flag := by
  have apart : ∀ word ∈ truthWords false, word ∉ truthWords true := by decide
  let word := String.ofList ((Text.trim value.toList).map Char.toLower)
  have reading : truth? value = if (truthWords true).contains word then some true
      else if (truthWords false).contains word then some false else none := rfl
  rw [reading]
  split
  · next yes =>
    rw [List.contains_iff_mem] at yes
    cases flag with
    | false => exact iff_of_false nofun fun no => apart word no yes
    | true => exact iff_of_true rfl yes
  · next notYes =>
    rw [List.contains_iff_mem] at notYes
    split
    · next no =>
      rw [List.contains_iff_mem] at no
      cases flag with
      | false => exact iff_of_true rfl no
      | true => exact iff_of_false nofun notYes
    · next notNo =>
      rw [List.contains_iff_mem] at notNo
      cases flag with
      | false => exact iff_of_false nofun notNo
      | true => exact iff_of_false nofun notYes

/-- A value is read as the truth value that it says. -/
lemma truth?_eq_some_iff_says : truth? value = some flag ↔ Says value flag := by
  rw [truth?_eq_some_iff]
  constructor
  · intro known
    obtain ⟨before, after, split, hbefore, hafter⟩ := Text.exists_trim value.toList
    exact ⟨before, _, after, split, hbefore, hafter, known⟩
  · rintro ⟨before, word, after, split, hbefore, hafter, known⟩
    rwa [split, Text.trim_append hbefore (not_isBlank_of_truthWord known) hafter]

end Words

namespace Setting

variable {lookup : String → Option String}

/-- Every setting, in the order in which they are looked at. -/
def all : List Setting :=
  [singleSelection, saeSupported, suiteBSupported, enhancedOpenSupported, verbose]

/-- The variable of the setting is not set, or its value says a truth value. -/
def Readable (setting : Setting) (lookup : String → Option String) : Prop :=
  ∀ value, lookup setting.variableName = some value → ∃ flag, Says value flag

/-- The flag of the setting is what the value of its variable says, or the default. -/
def Tells (setting : Setting) (lookup : String → Option String) (default flag : Bool) : Prop :=
  match lookup setting.variableName with
  | none => flag = default
  | some value => Says value flag

/-- What is wrong with the variable of a setting, if anything is. -/
def fault? (lookup : String → Option String) (setting : Setting) : Option SettingError :=
  match lookup setting.variableName with
  | none => none
  | some value =>
    match truth? value with
    | some _ => none
    | none => some ⟨setting, value⟩

/-- The flag of a setting with whose variable nothing is wrong. -/
def told (setting : Setting) (lookup : String → Option String) (default : Bool) : Bool :=
  ((lookup setting.variableName).bind truth?).getD default

/-- No setting is missing from the list. -/
lemma mem_all (setting : Setting) : setting ∈ all := by
  cases setting <;> decide

/-- Reading a setting ends in the fault of its variable or in the flag that the variable tells. -/
lemma flag_eq (setting : Setting) (default : Bool) :
    setting.flag lookup default =
      match setting.fault? lookup with
      | some error => .error error
      | none => .ok (setting.told lookup default) := by
  rw [flag, fault?, told]
  cases lookup setting.variableName with
  | none => rfl
  | some value =>
    cases truth : truth? value with
    | none => simp [truth]
    | some flag => simp [truth]

/-- The fault of a variable has the value that says no truth value. -/
lemma fault?_eq_some_iff {setting : Setting} {error : SettingError} :
    setting.fault? lookup = some error ↔
      error.setting = setting ∧ lookup setting.variableName = some error.value ∧
        ∀ flag, ¬ Says error.value flag := by
  obtain ⟨other, blamed⟩ := error
  simp only [← truth?_eq_some_iff_says, ← ne_eq, ← Option.eq_none_iff_forall_ne_some]
  rw [fault?]
  cases lookup setting.variableName with
  | none => simp
  | some value =>
    simp only [Option.some_inj]
    constructor
    · intro faulty
      split at faulty
      · cases faulty
      · next silent =>
        cases faulty
        exact ⟨rfl, rfl, silent⟩
    · rintro ⟨rfl, rfl, silent⟩
      rw [silent]

/-- Nothing is wrong with a variable exactly when it can be read. -/
lemma fault?_eq_none_iff {setting : Setting} :
    setting.fault? lookup = none ↔ setting.Readable lookup := by
  rw [Readable, fault?]
  simp only [← truth?_eq_some_iff_says]
  cases lookup setting.variableName with
  | none => simp
  | some value => cases truth : truth? value <;> simp [truth]

/-- A variable tells the flag that is read from it. -/
lemma tells_iff {setting : Setting} {default flag : Bool} :
    setting.Tells lookup default flag ↔
      setting.Readable lookup ∧ setting.told lookup default = flag := by
  rw [Tells, Readable, told]
  simp only [← truth?_eq_some_iff_says]
  cases lookup setting.variableName with
  | none => simp [eq_comm]
  | some value => cases truth : truth? value <;> simp [truth]

end Setting

namespace Settings

variable {lookup : String → Option String}

/-- What settings say about one of them. -/
def get (settings : Settings) : Setting → Bool
  | .singleSelection => settings.policy.mode = .single
  | .saeSupported => settings.policy.platform.sae
  | .suiteBSupported => settings.policy.platform.suiteB
  | .enhancedOpenSupported => settings.policy.platform.enhancedOpen
  | .verbose => settings.verbose

/-- The settings with the given flags. -/
def ofFlags (flag : Setting → Bool) : Settings where
  policy := ⟨if flag .singleSelection then .single else .multiple,
    ⟨flag .saeSupported, flag .suiteBSupported, flag .enhancedOpenSupported⟩⟩
  verbose := flag .verbose

/-- The outcome, unless something is wrong with one of the listed settings. -/
def unlessFault (lookup : String → Option String) (listed : List Setting) (outcome : Settings) :
    Except SettingError Settings :=
  match listed.findSome? (Setting.fault? lookup) with
  | some error => .error error
  | none => .ok outcome

/-- Each setting is the flag that the settings are made with. -/
lemma get_ofFlags (flag : Setting → Bool) (setting : Setting) :
    (ofFlags flag).get setting = flag setting := by
  cases setting with
  | singleSelection =>
    rw [get, ofFlags]
    cases flag .singleSelection <;> rfl
  | saeSupported => rfl
  | suiteBSupported => rfl
  | enhancedOpenSupported => rfl
  | verbose => rfl

/-- Settings are made of the flags that they have. -/
lemma ofFlags_get (settings : Settings) : ofFlags settings.get = settings := by
  obtain ⟨⟨mode, platform⟩, verbose⟩ := settings
  cases mode <;> rfl

/-- One more setting that is looked at adds its flag, or the fault of its variable. -/
lemma flag_bind {setting : Setting} {default : Bool} {rest : List Setting} {outcome : Settings}
    {next : Bool → Except SettingError Settings}
    (goes : next (setting.told lookup default) = unlessFault lookup rest outcome) :
    (setting.flag lookup default >>= next) = unlessFault lookup (setting :: rest) outcome := by
  rw [Setting.flag_eq, unlessFault, List.findSome?_cons]
  cases setting.fault? lookup with
  | some error => rfl
  | none => exact goes

/-- The settings of an environment are the flags that are told, unless one of the variables is at
fault. -/
lemma ofEnvironment_eq (lookup : String → Option String) :
    ofEnvironment lookup =
      unlessFault lookup Setting.all
        (ofFlags fun setting => setting.told lookup (default.get setting)) :=
  flag_bind <| flag_bind <| flag_bind <| flag_bind <| flag_bind rfl

/-- The outcome is there exactly when all variables can be read. -/
lemma unlessFault_eq_ok_iff {outcome settings : Settings} :
    unlessFault lookup Setting.all outcome = .ok settings ↔
      (∀ setting : Setting, setting.Readable lookup) ∧ outcome = settings := by
  simp only [← Setting.fault?_eq_none_iff]
  rw [unlessFault]
  cases faults : Setting.all.findSome? (Setting.fault? lookup) with
  | some error =>
    obtain ⟨setting, -, faulty⟩ := List.exists_of_findSome?_eq_some faults
    refine iff_of_false nofun fun sound => ?_
    rw [sound.1 setting] at faulty
    cases faulty
  | none =>
    have sound := List.findSome?_eq_none_iff.1 faults
    rw [Except.ok.injEq]
    exact (and_iff_right fun setting => sound setting setting.mem_all).symm

/-- The error is the first fault of the listed settings. -/
lemma unlessFault_eq_error_iff {listed : List Setting} {outcome : Settings} {error : SettingError} :
    unlessFault lookup listed outcome = .error error ↔
      listed.findSome? (Setting.fault? lookup) = some error := by
  rw [unlessFault]
  cases listed.findSome? (Setting.fault? lookup) with
  | some first => simp
  | none => simp

/-- The settings are there exactly when each of them is what its own variable tells. -/
lemma ofEnvironment_eq_ok_iff {settings : Settings} :
    ofEnvironment lookup = .ok settings ↔
      ∀ setting : Setting, setting.Tells lookup (default.get setting) (settings.get setting) := by
  simp only [Setting.tells_iff, forall_and]
  rw [ofEnvironment_eq, unlessFault_eq_ok_iff]
  refine and_congr_right fun _ => ?_
  constructor
  · rintro rfl setting
    rw [get_ofFlags]
  · intro same
    rw [funext same, ofFlags_get]

/-- The settings of an environment are all there or none is. They are there exactly when each of
the variables is unset or says a truth value, and each setting then goes by its own variable alone.
Otherwise the error names the first setting in order whose variable says none, and has the value of
the variable as it was given. -/
theorem ofEnvironment_all_or_nothing (lookup : String → Option String) :
    ((∃ settings, ofEnvironment lookup = .ok settings) ↔
      ∀ setting : Setting, setting.Readable lookup) ∧
    (∀ settings, ofEnvironment lookup = .ok settings ↔
      ∀ setting : Setting,
        setting.Tells lookup (Settings.default.get setting) (settings.get setting)) ∧
    ∀ error, ofEnvironment lookup = .error error ↔
      lookup error.setting.variableName = some error.value ∧ (∀ flag, ¬ Says error.value flag) ∧
        ∃ before after, Setting.all = before ++ error.setting :: after ∧
          ∀ setting ∈ before, setting.Readable lookup := by
  refine ⟨?_, fun _ => ofEnvironment_eq_ok_iff, fun error => ?_⟩
  · simp only [ofEnvironment_eq, unlessFault_eq_ok_iff, exists_and_left, exists_eq', and_true]
  · rw [ofEnvironment_eq, unlessFault_eq_error_iff, List.findSome?_eq_some_iff]
    constructor
    · rintro ⟨before, setting, after, split, faulty, sound⟩
      obtain ⟨rfl, given, silent⟩ := Setting.fault?_eq_some_iff.1 faulty
      refine ⟨given, silent, before, after, split, fun other hmem => ?_⟩
      exact Setting.fault?_eq_none_iff.1 (sound other hmem)
    · rintro ⟨given, silent, before, after, split, readable⟩
      refine ⟨before, _, after, split, Setting.fault?_eq_some_iff.2 ⟨rfl, given, silent⟩, ?_⟩
      exact fun other hmem => Setting.fault?_eq_none_iff.2 (readable other hmem)

/-- Two variables are no good, and the one that is looked at first is the error. -/
example :
    let lookup : String → Option String
      | "BEACONMAP_VERBOSE" => some "maybe"
      | "BEACONMAP_SUITE_B_SUPPORTED" => some " o n "
      | "BEACONMAP_SAE_SUPPORTED" => some "\u2003OFF\t"
      | _ => none
    ofEnvironment lookup = .error ⟨.suiteBSupported, " o n "⟩ := by
  decide

end Settings

end WifiRoster
