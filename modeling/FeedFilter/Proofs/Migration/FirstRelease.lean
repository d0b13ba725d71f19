/-
**Migrated records keep their meaning.**

A record of the first release has a list of items. Its document has one line for each item that is
not empty, and the engine of the document hides a post just where an item matches its text as the
first release read it.

* `strip_directive`, `lines_document`: the lines of the document, and what is read of them.
* `directives_document`: the directives of the document look for what the items looked for.
* `ofRecord_firstRelease`: what an engine with the settings of such a record decides.
-/

import FeedFilter.Proofs.Engine.TextRules
import FeedFilter.Proofs.Migration.Item
import Mathlib.Data.List.Basic

namespace FeedFilter.Migration

/-- Whether every expression among some items compiles or is invalid. -/
def AreUnbroken (items : List Text) : Prop :=
  ∀ item ∈ items, ∀ body letters, IsExpression item body letters → letters.Nodup →
    ∀ breakdown, Regex.compile (firstFlags letters) body ≠ .error (.breakdown breakdown)

/-- Whether an item, read as an expression, compiles or is invalid. -/
def isUnbroken (item : Text) : Bool :=
  match Matcher.literal? item with
  | none => true
  | some (body, letters) =>
    match Regex.compile (firstFlags letters) body with
    | .error (.breakdown _) => false
    | _ => true

theorem areUnbroken_of_all {items : List Text} (all : items.all isUnbroken = true) :
    AreUnbroken items := by
  intro item inside body letters shape _ breakdown failed
  have own := List.all_eq_true.mp all item inside
  rw [isUnbroken, shape.literal?] at own
  simp only [failed] at own
  cases own

/-- The items that are not empty. -/
def filled (items : List Text) : List Text := items.filter fun item => !item.isEmpty

theorem mem_filled_iff {items : List Text} {item : Text} :
    item ∈ filled items ↔ item ∈ items ∧ item ≠ [] := by
  rw [filled, List.mem_filter, Bool.not_eq_true', List.isEmpty_eq_false_iff]

/-! ### The lines of the document -/

/-- What is read of a line of the document is the directive as it was written. -/
theorem strip_directive (item : Text) : Comment.strip (directive item) = written item := by
  rw [directive_eq, Comment.strip_escape]

/-- **The document has one line for each item** that is not empty. -/
theorem lines_document (items : List Text) :
    (document items).lines = (filled items).map directive := by
  refine Text.lines_join fun line member => ?_
  obtain ⟨item, inside, rfl⟩ := List.mem_map.mp member
  have clean := written_clean (mem_filled_iff.mp inside).2
  rw [directive_eq]
  exact ⟨Comment.escape_ne_nil clean.filled, Comment.isOneLine_escape clean.oneLine⟩

theorem trimmedLines_document (items : List Text) :
    Document.trimmedLines (document items) = (filled items).map written := by
  have clean : ∀ item ∈ filled items, (written item).IsClean := fun item inside =>
    written_clean (mem_filled_iff.mp inside).2
  have trimmed : (document items).lines.map (fun line => (Comment.strip line).trim)
      = (filled items).map written := by
    rw [lines_document, List.map_map]
    refine List.map_congr_left fun item inside => ?_
    show (Comment.strip (directive item)).trim = written item
    rw [strip_directive, (clean item inside).trimmed]
  rw [Document.trimmedLines, Document.trimmedOf, trimmed, List.filter_eq_self]
  intro line member
  obtain ⟨item, inside, rfl⟩ := List.mem_map.mp member
  rw [Bool.not_eq_true', List.isEmpty_eq_false_iff]
  exact (clean item inside).filled

/-! ### The directives of the document -/

variable {items : List Text}

/-- What the directive of an item looks for. -/
def matcher? (item : Text) : Option Matcher :=
  (Directive.compile (written item)).toOption.map Directive.matcher

theorem matcher?_eq_some_iff (unbroken : AreUnbroken items) {item : Text}
    (member : item ∈ filled items) {matcher : Matcher} :
    matcher? item = some matcher ↔ Reads item matcher.regex ∧ matcher.source = written item := by
  obtain ⟨inside, isFilled⟩ := mem_filled_iff.mp member
  unfold matcher?
  rcases compile_written isFilled (unbroken item inside) with ⟨regex, reads, compiled⟩
    | ⟨rejected, -, error, refused⟩
  · rw [compiled]
    constructor
    · rintro ⟨⟩
      exact ⟨reads, rfl⟩
    · rintro ⟨again, source⟩
      obtain ⟨own, found⟩ := matcher
      have unique : found = regex := reads.unique again
      rw [unique]
      exact congrArg some (congrArg (Matcher.mk · regex) source.symm)
  · rw [refused]
    refine iff_of_false (fun found => nomatch found) fun both => ?_
    exact rejected.not_reads _ both.1

theorem isSettled_document (unbroken : AreUnbroken items) :
    Document.IsSettled (document items) := by
  intro line member
  rw [trimmedLines_document] at member
  obtain ⟨item, inFilled, rfl⟩ := List.mem_map.mp member
  obtain ⟨inside, isFilled⟩ := mem_filled_iff.mp inFilled
  rcases compile_written isFilled (unbroken item inside) with ⟨regex, -, compiled⟩
    | ⟨-, -, error, refused⟩
  · exact .inl ⟨_, compiled⟩
  · exact .inr ⟨error, refused⟩

/-- **The directives of the document** are rules on the text that look for what the items did. -/
theorem directives_document (unbroken : AreUnbroken items) :
    Document.directives (document items)
      = ((filled items).filterMap matcher?).map Directive.onText := by
  rw [Document.directives, trimmedLines_document, Directive.ofLines, List.filterMap_map,
    List.map_filterMap]
  refine List.filterMap_congr fun item member => ?_
  obtain ⟨inside, isFilled⟩ := mem_filled_iff.mp member
  show (Directive.compile (written item)).toOption = _
  unfold matcher?
  rcases compile_written isFilled (unbroken item inside) with ⟨regex, -, compiled⟩
    | ⟨-, -, error, refused⟩
  · rw [compiled]
    rfl
  · rw [refused]
    rfl

/-- The rules of the document find something in a text just where an item matches it. -/
theorem exists_finds_iff (unbroken : AreUnbroken items) (text : Text) :
    (∃ matcher ∈ (filled items).filterMap matcher?, matcher.finds text = true)
      ↔ ∃ item ∈ items, item ≠ [] ∧ Matches item (foldQuotes text) := by
  constructor
  · rintro ⟨matcher, member, finds⟩
    obtain ⟨item, inFilled, looks⟩ := List.mem_filterMap.mp member
    obtain ⟨inside, isFilled⟩ := mem_filled_iff.mp inFilled
    exact ⟨item, inside, isFilled, matcher.regex,
      ((matcher?_eq_some_iff unbroken inFilled).mp looks).1, finds⟩
  · rintro ⟨item, inside, isFilled, regex, reads, finds⟩
    have inFilled := mem_filled_iff.mpr ⟨inside, isFilled⟩
    refine ⟨⟨written item, regex⟩, List.mem_filterMap.mpr ⟨item, inFilled, ?_⟩, finds⟩
    exact (matcher?_eq_some_iff unbroken inFilled).mpr ⟨reads, rfl⟩

/-! ### The lines that are reported -/

theorem ignored_document (unbroken : AreUnbroken items) :
    Document.invalidLines (document items)
      = .ok (((filled items).filterMap fun item => Ignored.ofLine? (written item)).map
          Ignored.line) := by
  rw [Document.invalidLines, Document.errors_eq (isSettled_document unbroken),
    trimmedLines_document, List.filterMap_map]
  rfl

/-- **What is reported of the document** are the items that are rejected. -/
theorem mem_invalid_iff (unbroken : AreUnbroken items) {line : Text} :
    line ∈ ((filled items).filterMap fun item => Ignored.ofLine? (written item)).map Ignored.line
      ↔ line ∈ items ∧ IsRejected line := by
  rw [List.mem_map]
  constructor
  · rintro ⟨ignored, member, rfl⟩
    obtain ⟨item, inFilled, reported⟩ := List.mem_filterMap.mp member
    obtain ⟨inside, isFilled⟩ := mem_filled_iff.mp inFilled
    unfold Ignored.ofLine? at reported
    rcases compile_written isFilled (unbroken item inside) with ⟨regex, -, compiled⟩
      | ⟨rejected, same, error, refused⟩
    · rw [compiled] at reported
      cases reported
    · rw [refused, same] at reported
      cases reported
      exact ⟨inside, rejected⟩
  · rintro ⟨inside, rejected⟩
    have isFilled : line ≠ [] := by
      obtain ⟨body, letters, shape, -⟩ := rejected
      exact shape.clean.filled
    rcases compile_written isFilled (unbroken line inside) with ⟨regex, reads, -⟩
      | ⟨-, same, error, refused⟩
    · exact absurd reads (rejected.not_reads regex)
    · refine ⟨⟨line, error⟩, List.mem_filterMap.mpr
        ⟨line, mem_filled_iff.mpr ⟨inside, isFilled⟩, ?_⟩, rfl⟩
      unfold Ignored.ofLine?
      rw [refused, same]

/-! ### The record -/

/-- A record of the first release with some items. -/
def firstRecord (items : List Text) : StoredRecord :=
  [("regexList".toList, .list (items.map Json.string))]

theorem items_list (texts : List Text) :
    Migration.items (some (.list (texts.map Json.string))) = .ok texts := by
  unfold Migration.items
  cases texts with
  | nil => rfl
  | cons first rest =>
    show Except.ok (((first :: rest).map Json.string).map Json.asText) = _
    rw [List.map_map]
    exact congrArg Except.ok (List.map_id _)

theorem run_firstRecord (items : List Text) :
    run (firstRecord items) = .ok (record (document items) false false false) := by
  have listed : Json.field? (firstRecord items) "regexList"
      = some (.list (items.map Json.string)) := rfl
  have unversioned : version (firstRecord items) = .ok 0 := rfl
  have quiet : Json.field? (firstRecord items) "debugMode" = none := rfl
  rw [run, unversioned]
  show fromFirst (firstRecord items) = _
  rw [fromFirst, listed, items_list, quiet]
  rfl

theorem ofRecord_firstRecord (items : List Text) :
    Settings.ofRecord (firstRecord items) = .ok ⟨document items, false, false, false⟩ := by
  rw [Settings.ofRecord, run_firstRecord]
  rfl

/-! ### What the engine decides -/

/-- The directive of a word is not reported. -/
theorem word_not_reported (unbroken : AreUnbroken items) {item : Text} (inside : item ∈ items)
    (isFilled : item ≠ []) (isWord : ∀ body letters, ¬ IsExpression item body letters) :
    ¬ (written item ∈ items ∧ IsRejected (written item)) := by
  rintro ⟨again, rejected⟩
  -- The directive of a word is a directive, and a rejected item is none.
  have accepted : ∃ directive, Directive.compile (written item) = .ok directive := by
    rcases compile_written isFilled (unbroken item inside) with ⟨_, -, compiled⟩ | ⟨other, -, -⟩
    · exact ⟨_, compiled⟩
    · obtain ⟨body, letters, shape, -⟩ := other
      exact absurd shape (isWord body letters)
  obtain ⟨directive, compiled⟩ := accepted
  rcases compile_written (written_clean isFilled).filled (unbroken _ again) with
    ⟨regex, reads, -⟩ | ⟨-, same, error, refused⟩
  · exact rejected.not_reads regex reads
  · rw [same, compiled] at refused
    cases refused

/-- **Migration keeps the meaning of every record of the first release.** With the settings of such
a record, an engine hides a post just where an item that is not empty matches its text as the first
release read the item, with curly quotes made straight. It leaves every other post untouched and
never looks at who reacted. The document has one line for each of these items; the lines reported of
it are the rejected expressions, and the directive of a word is never among them. -/
theorem ofRecord_firstRelease (items : List Text) (unbroken : AreUnbroken items) :
    ∃ settings, Settings.ofRecord (firstRecord items) = .ok settings
      ∧ (∀ entry text, entry.text = .ok text →
          ((∃ item ∈ items, item ≠ [] ∧ Matches item (foldQuotes text)) →
            ∃ reason, ((Engine.new settings).decide entry).inspection.result = .ok (.hide reason))
          ∧ ((¬ ∃ item ∈ items, item ≠ [] ∧ Matches item (foldQuotes text)) →
            ((Engine.new settings).decide entry).inspection.result = .ok .nothing))
      ∧ (∀ entry, .reactor ∉ ((Engine.new settings).decide entry).inspection.reads)
      ∧ settings.filterPatterns.lines = (items.filter fun item => !item.isEmpty).map directive
      ∧ ∃ invalid, Document.invalidLines settings.filterPatterns = .ok invalid
        ∧ (∀ line, line ∈ invalid ↔ line ∈ items ∧ IsRejected line)
        ∧ ∀ item ∈ items, item ≠ [] → (∀ body letters, ¬ IsExpression item body letters) →
            Comment.strip (directive item) ∉ invalid := by
  have flagless : Settings.IsFlagless ⟨document items, false, false, false⟩ := ⟨rfl, rfl⟩
  have settled := isSettled_document unbroken
  have rules := directives_document unbroken
  refine ⟨_, ofRecord_firstRecord items, ?_, ?_, lines_document items, _,
    ignored_document unbroken, fun line => mem_invalid_iff unbroken, ?_⟩
  · intro entry text present
    rw [Engine.decide_textRules flagless settled rules present, ← exists_finds_iff unbroken text]
    cases found : ((filled items).filterMap matcher?).find? (Matcher.finds text) with
    | none =>
      rw [List.find?_eq_none] at found
      refine ⟨?_, fun _ => rfl⟩
      rintro ⟨matcher, member, finds⟩
      exact absurd finds (found matcher member)
    | some matcher =>
      refine ⟨fun _ => ⟨_, rfl⟩, fun unmatched => ?_⟩
      exact absurd ⟨matcher, List.mem_of_find?_eq_some found, List.find?_some found⟩ unmatched
  · intro entry read
    exact absurd (Engine.reads_textRules flagless settled rules read) (by decide)
  · intro item inside isFilled isWord reported
    rw [strip_directive, mem_invalid_iff unbroken] at reported
    exact word_not_reported unbroken inside isFilled isWord reported

/-- An expression with flags, one that cannot be read, and words that look like other directives. -/
def mixedItems : List Text :=
  [['/', '^', 'a', 'd', '/', 'g', 'm'], ['/', '(', '/'], ['/', 'x', '/', 's'], ['!', ';']]

theorem ofRecord_firstRelease_mixedItems :
    AreUnbroken mixedItems
      ∧ ∃ settings, Settings.ofRecord (firstRecord mixedItems) = .ok settings
        ∧ ∃ reason, ((Engine.new settings).decide
            (.ofValues ['b', 'y', '\n', 'a', 'd'] none false false)).inspection.result
          = .ok (.hide reason) := by
  have unbroken : AreUnbroken mixedItems := areUnbroken_of_all (by decide +kernel)
  obtain ⟨settings, settingsEq, decides, -⟩ := ofRecord_firstRelease mixedItems unbroken
  refine ⟨unbroken, settings, settingsEq, (decides _ _ rfl).1 ?_⟩
  have shape : IsExpression ['/', '^', 'a', 'd', '/', 'g', 'm'] ['^', 'a', 'd'] ['g', 'm'] :=
    ⟨by decide, rfl, by decide, List.forall_mem_cons.mpr ⟨by decide,
      List.forall_mem_singleton.mpr (by decide)⟩⟩
  have finds : ((Regex.compile [.multiline] ['^', 'a', 'd']).toOption.any fun regex =>
      regex.isFoundIn ['b', 'y', '\n', 'a', 'd']) = true := by decide +kernel
  cases compiled : Regex.compile [.multiline] ['^', 'a', 'd'] with
  | error failure =>
    rw [compiled] at finds
    cases finds
  | ok regex =>
    rw [compiled] at finds
    exact ⟨_, List.mem_cons_self, List.cons_ne_nil _ _, regex,
      .expression shape (by decide) compiled, finds⟩

end FeedFilter.Migration
