/-
**What becomes of a settings file that cannot be used.**

A file that is there gives settings or an error. The errors of settings are those that are reported
to the user; any other error makes the program fail. There are three ways to such a failure: the
bytes are no text, a whole number in the text has too many digits, or a record of the first release
has a switch or a number where its list should be.

* `IsSettingsError`: the errors of settings, which are just those that the program reports.
* `Migration.ListsNumber`: a record of the first release without a list.
* `Escapes`: what bytes make loading fail with another error, and with which one.
* `parseBytes_escapes_iff`: nothing else makes it fail so.
* `load_settles_or_escapes`: all other bytes give settings or an error of settings.
-/

import FeedFilter.Editor.Panel
import FeedFilter.Program
import FeedFilter.Proofs.Json.Numeral
import FeedFilter.Proofs.SettingsFile.Saving

namespace FeedFilter

/-! ### Records of the first release without a list -/

namespace Json

/-- Whether a value is a switch or a number. -/
def IsNumeric : Json → Prop
  | boolean _ | whole _ | real _ => True
  | _ => False

end Json

namespace Migration

/-- A record of the first release in which something that counts, but is no collection, stands for
the list of patterns. -/
def ListsNumber (stored : StoredRecord) (value : Json) : Prop :=
  (Json.field? stored "version").getD (.whole 0) = .whole 0
    ∧ Json.field? stored "regexList" = some value ∧ value.isTruthy = true ∧ value.IsNumeric

theorem version_eq_zero_iff {stored : StoredRecord} :
    version stored = .ok 0 ↔ (Json.field? stored "version").getD (.whole 0) = .whole 0 := by
  rw [version]
  generalize (Json.field? stored "version").getD (.whole 0) = value
  cases value
  case whole number =>
    simp only [Bool.and_eq_true, decide_eq_true_eq, Json.whole.injEq]
    by_cases known : 0 ≤ number ∧ number ≤ currentVersion
    · rw [if_pos known, Except.ok.injEq]
      omega
    · rw [if_neg known]
      refine iff_of_false (fun same => nomatch same) ?_
      rintro rfl
      exact known (by decide)
  all_goals exact iff_of_false (fun same => nomatch same) (fun same => nomatch same)

theorem items_eq_error_iff {value : Option Json} {error : RecordError} :
    items value = .error error
      ↔ ∃ given, value = some given ∧ given.isTruthy = true ∧ given.IsNumeric
        ∧ error = .listNotIterable given.kind := by
  cases value with
  | none => simp [items]
  | some given =>
    by_cases counts : given.isTruthy = true
    · cases given
      case null => cases counts
      all_goals simp [items, counts, Json.IsNumeric, @eq_comm _ error]
    · simp [items, counts]

theorem exists_of_version_eq_error {stored : StoredRecord} {error : RecordError}
    (unknown : version stored = .error error) : ∃ value, error = .unknownVersion value := by
  rw [version] at unknown
  split at unknown
  · split at unknown
    · cases unknown
    · exact ⟨_, (Except.error.inj unknown).symm⟩
  · exact ⟨_, (Except.error.inj unknown).symm⟩

/-- The list of a record of the first release is all that keeps it from the next version. -/
theorem fromFirst_eq_error_iff {stored : StoredRecord} {error : RecordError} :
    fromFirst stored = .error error ↔ items (Json.field? stored "regexList") = .error error := by
  rw [fromFirst]
  cases items (Json.field? stored "regexList") with
  | error other => simp only [bind, Except.bind, Except.error.injEq]
  | ok found => exact iff_of_false (fun same => nomatch same) (fun same => nomatch same)

/-- **A record fails for the want of a list** if it is of the first release and has a switch or a
number in the place of the list. -/
theorem run_eq_listNotIterable_iff {stored : StoredRecord} {kind : String} :
    run stored = .error (.listNotIterable kind)
      ↔ ∃ value, ListsNumber stored value ∧ value.kind = kind := by
  have first_of_lists {value : Json} (lists : ListsNumber stored value) : version stored = .ok 0 :=
    version_eq_zero_iff.mpr lists.1
  rw [run]
  cases released : version stored with
  | error error =>
    obtain ⟨unknown, rfl⟩ := exists_of_version_eq_error released
    refine iff_of_false (fun same => nomatch same) ?_
    rintro ⟨value, lists, -⟩
    cases released.symm.trans (first_of_lists lists)
  | ok number =>
    by_cases first : number = 0
    · have step : (do
          let version ← (.ok number : Except RecordError Nat)
          if version = 0 then fromFirst stored else return stored) = fromFirst stored :=
        if_pos first
      rw [step, fromFirst_eq_error_iff, items_eq_error_iff]
      constructor
      · rintro ⟨value, given, counts, numeric, same⟩
        cases same
        exact ⟨value, ⟨version_eq_zero_iff.mp (released.trans (by rw [first])), given, counts,
          numeric⟩, rfl⟩
      · rintro ⟨value, ⟨-, given, counts, numeric⟩, rfl⟩
        exact ⟨value, given, counts, numeric, rfl⟩
    · have step : (do
          let version ← (.ok number : Except RecordError Nat)
          if version = 0 then fromFirst stored else return stored) = .ok stored := if_neg first
      rw [step]
      refine iff_of_false (fun same => nomatch same) ?_
      rintro ⟨value, lists, -⟩
      exact first (Except.ok.inj (released.symm.trans (first_of_lists lists)))

end Migration

/-- A record of the current version does not fail for the want of a list. -/
theorem Settings.ofRecord_eq_listNotIterable_iff {stored : StoredRecord} {kind : String} :
    ofRecord stored = .error (.listNotIterable kind)
      ↔ ∃ value, Migration.ListsNumber stored value ∧ value.kind = kind := by
  rw [← Migration.run_eq_listNotIterable_iff, ofRecord]
  cases Migration.run stored with
  | error error => simp only [bind, Except.bind, Except.error.injEq]
  | ok current =>
    refine iff_of_false (fun same => ?_) (fun same => nomatch same)
    simp only [bind, Except.bind] at same
    split at same
    · cases same
    · cases same

/-! ### Loading -/

/-- The errors of settings: what is said of them is that the settings cannot be used. -/
inductive LoadError.IsSettingsError : LoadError → Prop
  | notJson (fileName : Text) (error : JsonError) : IsSettingsError (.notJson fileName error)
  | rootNotObject : IsSettingsError .rootNotObject
  | unknownVersion (version : Json) : IsSettingsError (.record (.unknownVersion version))
  | patternsNotText : IsSettingsError (.record .patternsNotText)

/-- The program reports the errors of settings and no others. -/
theorem LoadError.isSettingsError_iff_reported {error : LoadError} :
    error.IsSettingsError ↔ (Program.settingsMessage? error).isSome = true := by
  constructor
  · rintro (_ | _ | _ | _) <;> rfl
  · intro reported
    match error with
    | .notJson fileName error => exact .notJson fileName error
    | .rootNotObject => exact .rootNotObject
    | .record (.unknownVersion version) => exact .unknownVersion version
    | .record .patternsNotText => exact .patternsNotText

/-- The editor reports them too, and what the disk does not allow. -/
theorem LoadError.isSettingsError_or_disk_iff_reported {error : LoadError} :
    (error.IsSettingsError ∨ ∃ fault, error = .disk fault) ↔ (report? error).isSome = true := by
  constructor
  · rintro ((_ | _ | _ | _) | ⟨fault, rfl⟩) <;> rfl
  · intro reported
    match error with
    | .disk fault => exact .inr ⟨fault, rfl⟩
    | .notJson fileName error => exact .inl (.notJson fileName error)
    | .rootNotObject => exact .inl .rootNotObject
    | .record (.unknownVersion version) => exact .inl (.unknownVersion version)
    | .record .patternsNotText => exact .inl .patternsNotText

theorem LoadError.not_isSettingsError_notText {fault : Text.Utf8Error} :
    ¬ IsSettingsError (.notText fault) := by
  rintro ⟨⟩

theorem LoadError.not_isSettingsError_numeralTooLong {digits : Nat} :
    ¬ IsSettingsError (.numeralTooLong digits) := by
  rintro ⟨⟩

theorem LoadError.not_isSettingsError_record_iff {error : RecordError} :
    ¬ IsSettingsError (.record error) ↔ ∃ kind, error = .listNotIterable kind := by
  constructor
  · intro escapes
    match error with
    | .unknownVersion version => exact absurd (.unknownVersion version) escapes
    | .patternsNotText => exact absurd .patternsNotText escapes
    | .listNotIterable kind => exact ⟨kind, rfl⟩
  · rintro ⟨kind, rfl⟩
    exact nofun

namespace SettingsFile

/-- What a text makes loading fail with, other than an error of settings. -/
inductive TextEscapes (text : Text) : LoadError → Prop
  | numeralTooLong (digits position : Nat)
    (long : Json.read text = .error ⟨.numeralTooLong digits, position⟩) :
    TextEscapes text (.numeralTooLong digits)
  | listNotIterable (stored : StoredRecord) (value : Json)
    (read : Json.read text = .ok (.object stored)) (lists : Migration.ListsNumber stored value) :
    TextEscapes text (.record (.listNotIterable value.kind))

/-- What bytes make loading fail with, other than an error of settings. -/
inductive Escapes (content : List UInt8) : LoadError → Prop
  | notText (fault : Text.Utf8Error) (undecodable : Text.decode content = .error fault) :
    Escapes content (.notText fault)
  | text (text : Text) (error : LoadError) (encoded : content = Text.encode text)
    (escapes : TextEscapes (Text.unifyNewlines text) error) : Escapes content error

variable {file : SettingsFile} {disk : Disk} {content : List UInt8}

theorem parse_escapes_iff {fileName text : Text} {error : LoadError} :
    (parse fileName text = .error error ∧ ¬ error.IsSettingsError) ↔ TextEscapes text error := by
  constructor
  · rintro ⟨failed, escapes⟩
    rw [parse] at failed
    split at failed
    · next digits position long =>
      cases failed
      exact .numeralTooLong digits position long
    · next other _ _ =>
      cases failed
      exact absurd (.notJson fileName other) escapes
    · next stored read =>
      split at failed
      · cases failed
      · next refused =>
        cases failed
        obtain ⟨kind, rfl⟩ := LoadError.not_isSettingsError_record_iff.mp escapes
        obtain ⟨value, lists, rfl⟩ := Settings.ofRecord_eq_listNotIterable_iff.mp refused
        exact .listNotIterable stored value read lists
    · cases failed
      exact absurd .rootNotObject escapes
  · rintro (⟨digits, position, long⟩ | ⟨stored, value, read, lists⟩)
    · exact ⟨by rw [parse, long], LoadError.not_isSettingsError_numeralTooLong⟩
    · have refused : Settings.ofRecord stored = .error (.listNotIterable value.kind) :=
        Settings.ofRecord_eq_listNotIterable_iff.mpr ⟨value, lists, rfl⟩
      refine ⟨?_, LoadError.not_isSettingsError_record_iff.mpr ⟨_, rfl⟩⟩
      rw [parse, read]
      simp only [refused]

theorem parseBytes_escapes_iff {fileName : Text} {error : LoadError} :
    (parseBytes fileName content = .error error ∧ ¬ error.IsSettingsError)
      ↔ Escapes content error := by
  rw [parseBytes]
  cases decoded : Text.decode content with
  | error fault =>
    constructor
    · rintro ⟨failed, -⟩
      cases failed
      exact .notText fault decoded
    · rintro (⟨other, undecodable⟩ | ⟨text, _, encoded, -⟩)
      · cases decoded.symm.trans undecodable
        exact ⟨rfl, LoadError.not_isSettingsError_notText⟩
      · cases decoded.symm.trans (Text.decode_eq_ok_iff.mpr encoded)
  | ok text =>
    have encoded := Text.decode_eq_ok_iff.mp decoded
    refine parse_escapes_iff.trans ⟨.text text error encoded, ?_⟩
    rintro (⟨fault, undecodable⟩ | ⟨other, _, again, escapes⟩)
    · cases decoded.symm.trans undecodable
    · cases decoded.symm.trans (Text.decode_eq_ok_iff.mpr again)
      exact escapes

/-- The bytes of a text without long rows of digits escape only for the want of a list. -/
theorem not_escapes_of_text {text : Text}
    (short : ∀ digits, ¬ Json.HasRun (Text.unifyNewlines text) digits)
    (listed : ∀ stored value, Json.read (Text.unifyNewlines text) = .ok (.object stored) →
      ¬ Migration.ListsNumber stored value) (error : LoadError) :
    ¬ Escapes (Text.encode text) error := by
  have decoded : Text.decode (Text.encode text) = .ok text := Text.decode_eq_ok_iff.mpr rfl
  rintro (⟨fault, undecodable⟩ | ⟨other, _, encoded, escapes⟩)
  · cases decoded.symm.trans undecodable
  · cases decoded.symm.trans (Text.decode_eq_ok_iff.mpr encoded)
    cases escapes with
    | numeralTooLong digits position long => exact short digits (Json.hasRun_of_read long)
    | listNotIterable stored value read lists => exact listed stored value read lists

/-- **Loading a file that is there gives settings or an error of settings**, unless its bytes are
such that another error escapes; then it fails with this one. -/
theorem load_settles_or_escapes (holds : disk.content file.path = .ok content) :
    (∀ error, Escapes content error → (load file disk).2 = .error error ∧ ¬ error.IsSettingsError)
      ∧ ((∀ error, ¬ Escapes content error) →
        (∃ settings, (load file disk).2 = .ok settings)
          ∨ ∃ error, (load file disk).2 = .error error ∧ error.IsSettingsError) := by
  rw [load_of_content holds]
  refine ⟨fun error escapes => parseBytes_escapes_iff.mpr escapes, fun none => ?_⟩
  cases outcome : parseBytes file.path.name content with
  | ok settings => exact .inl ⟨settings, rfl⟩
  | error error =>
    refine .inr ⟨error, rfl, ?_⟩
    by_contra escapes
    exact none error (parseBytes_escapes_iff.mp ⟨outcome, escapes⟩)

/-- The file of settings in the directory worked in. -/
def nearFile : SettingsFile := ofText "settings.json".toList

/-- Nothing but this file. -/
def onlyFile (content : List UInt8) : Disk := ⟨[(nearFile.path, .file content)]⟩

/-- A record of the first release with a number for its list escapes; an empty one does not. -/
theorem load_settles_or_escapes_numberForList :
    (load nearFile (onlyFile (Text.encode "\x7b\"regexList\": 5\x7d".toList))).2
        = .error (.record (.listNotIterable "int"))
      ∧ ((∃ settings, (load nearFile (onlyFile (Text.encode "\x7b\x7d".toList))).2 = .ok settings)
        ∨ ∃ error, (load nearFile (onlyFile (Text.encode "\x7b\x7d".toList))).2 = .error error
          ∧ error.IsSettingsError) := by
  have lists : Migration.ListsNumber [("regexList".toList, .whole 5)] (.whole 5) :=
    ⟨rfl, rfl, rfl, trivial⟩
  have escapes : Escapes (Text.encode "\x7b\"regexList\": 5\x7d".toList)
      (.record (.listNotIterable (Json.whole 5).kind)) :=
    .text _ _ rfl (.listNotIterable _ _ rfl lists)
  have settles : ∀ error, ¬ Escapes (Text.encode "\x7b\x7d".toList) error := by
    refine not_escapes_of_text ?_ ?_
    · rintro digits ⟨many, run, inside, rfl, -⟩
      exact absurd (Nat.lt_of_lt_of_le many inside.length_le) (by decide)
    · rintro stored value read ⟨-, given, -⟩
      cases read
      cases given
  exact ⟨((load_settles_or_escapes rfl).1 _ escapes).1, (load_settles_or_escapes rfl).2 settles⟩

/-- Bytes that are no text make loading fail with an error that is none of settings. -/
theorem load_undecodable :
    (onlyFile [0xff]).content nearFile.path = .ok [0xff]
      ∧ (load nearFile (onlyFile [0xff])).2 = .error (.notText ⟨.badStart, 0, 1, 0xff⟩)
      ∧ ¬ LoadError.IsSettingsError (.notText ⟨.badStart, 0, 1, 0xff⟩) :=
  ⟨rfl, rfl, nofun⟩

end SettingsFile

end FeedFilter
