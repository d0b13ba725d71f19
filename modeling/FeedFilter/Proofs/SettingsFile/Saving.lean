/-
**Saved settings are loaded as they were.**

Saving writes the record of the settings as indented text, the text as bytes, and the bytes to the
file; loading goes the whole way back. No step loses a character: the text is written without
carriage returns, so that line ends are not changed on the way in, every character has its bytes,
and what is escaped in quotes is read back.

* `Settings.ofRecord_toRecord`: settings are got back from their record.
* `parseBytes_write`: settings are got back from their bytes.
* `content_of_save`: what a file holds after saving.
* `load_save`: loading gives the settings that have been saved.
-/

import FeedFilter.Proofs.Disk
import FeedFilter.Proofs.Json.RoundTrip
import FeedFilter.Proofs.Text.Bytes
import FeedFilter.SettingsFile

namespace FeedFilter

/-! ### The record of settings -/

namespace Settings

/-- Settings are got back from their record. -/
theorem ofRecord_toRecord (settings : Settings) : ofRecord settings.toRecord = .ok settings := rfl

theorem toRecord_plain (settings : Settings) :
    ∀ field ∈ settings.toRecord, Json.IsPlain field.2 := by
  have short : (Nat.toDigits 10 Migration.currentVersion).length ≤ Text.longestNumeral := by decide
  intro field member
  simp only [toRecord, Migration.record, List.mem_cons, List.not_mem_nil, or_false] at member
  rcases member with rfl | rfl | rfl | rfl | rfl
  · exact .whole _ short
  · exact .string _
  all_goals exact .boolean _

theorem toRecord_different (settings : Settings) : (settings.toRecord.map Prod.fst).Nodup := by
  simp [toRecord, Migration.record]

end Settings

namespace SettingsFile

/-! ### The text of settings -/

/-- Settings are written without carriage returns. -/
theorem carriage_not_mem_write (settings : Settings) : '\r' ∉ write settings := by
  rw [write, List.mem_append, not_or]
  exact ⟨Json.carriage_not_mem_writeIndented settings.toRecord_plain, by decide⟩

/-- Settings are got back from their text. -/
theorem parse_write (fileName : Text) (settings : Settings) :
    parse fileName (write settings) = .ok settings := by
  have read : Json.read (write settings) = .ok (.object settings.toRecord) :=
    Json.read_writeIndented settings.toRecord_plain settings.toRecord_different rfl
  rw [parse, read]
  simp only [Settings.ofRecord_toRecord]

/-- Settings are got back from their bytes. -/
theorem parseBytes_write (fileName : Text) (settings : Settings) :
    parseBytes fileName (Text.encode (write settings)) = .ok settings := by
  have decoded : Text.decode (Text.encode (write settings)) = .ok (write settings) :=
    Text.decode_eq_ok_iff.mpr rfl
  rw [parseBytes, decoded]
  simp only [Text.unifyNewlines_eq_self (carriage_not_mem_write settings), parse_write]

/-! ### The file of settings -/

variable {file : SettingsFile} {settings : Settings} {disk : Disk}

/-- What a file holds after settings have been saved in it. -/
theorem content_of_save (saved : (save file settings disk).result = .ok ()) :
    (save file settings disk).disk.content file.path = .ok (Text.encode (write settings)) := by
  rw [save] at saved ⊢
  split
  · next failed => simp [failed] at saved
  · next made =>
    simp only [made] at saved ⊢
    split
    · next failed => simp [failed] at saved
    · next written => exact Disk.content_of_writeFile written

/-- What a file with a content is loaded as. -/
theorem load_of_content {content : List UInt8} (holds : disk.content file.path = .ok content) :
    load file disk = ([], parseBytes file.path.name content) := by
  rw [load, if_pos (Disk.isPresent_of_content holds), holds]

/-- **Saved settings are loaded as they were**, whatever becomes of other files in between. -/
theorem load_save {later : Disk} (saved : (save file settings disk).result = .ok ())
    (unchanged : later.content file.path = (save file settings disk).disk.content file.path) :
    load file later = ([], .ok settings) := by
  rw [load_of_content (unchanged.trans (content_of_save saved)), parseBytes_write]

/-- Settings with quotes, backslashes, control characters, line ends of all kinds, a byte order mark
and a character of four bytes. -/
def awkwardSettings : Settings where
  filterPatterns :=
    ['"', '\\', '/', '\x00', '\x08', '\t', '\n', '\x0b', '\x0c', '\r', '\n', '\r', '\x1f', '\x7f',
     '\u0085', '\u2028', '\u2029', '\ufeff', '\uffff', Char.ofNat 0x1F600]
  highlightMode := true

/-- They are saved below a directory that has to be made, and loaded again. -/
theorem load_save_awkward :
    (save (ofText "conf/settings.json".toList) awkwardSettings .empty).result = .ok ()
      ∧ load (ofText "conf/settings.json".toList)
          (save (ofText "conf/settings.json".toList) awkwardSettings .empty).disk
        = ([], .ok awkwardSettings) := by
  have saved : (save (ofText "conf/settings.json".toList) awkwardSettings .empty).result = .ok () :=
    rfl
  exact ⟨saved, load_save saved rfl⟩

end SettingsFile

end FeedFilter
