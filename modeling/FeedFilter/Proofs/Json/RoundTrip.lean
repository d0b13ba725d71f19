/-
**Written objects are read back.**

Settings are written as an object whose values are texts, switches and whole numbers. Such an object
is read back as it was. Every reading below leaves the text behind what it has read, so that
readings follow each other; where this text stands is of no account as long as nothing is wrong.

* `Yields`: what it means that a reading gives a value and leaves a text.
* `readText_yields`, `readNumber_yields`: texts in quotes and whole numbers are read back.
* `IsPlain.readValue_yields`, `readFields_yields`: so are the values of fields and the fields.
* `read_writeIndented`: so is a whole object.
* `carriage_not_mem_writeIndented`: it is written without carriage returns.
-/

import FeedFilter.Json.Reader
import FeedFilter.Json.Writer
import Mathlib.Data.List.Basic

namespace FeedFilter.Json

/-- A reading gives a value and leaves a text; the position of this text does not matter. -/
def Yields {Value : Type} (reading : Except JsonError (Value × Rest)) (value : Value)
    (more : Text) : Prop :=
  ∃ position, reading = .ok (value, ⟨more, position⟩)

/-! ### Texts in quotes -/

theorem hexadecimal_control :
    ∀ code < 0x20, (Text.hexadecimal 4 code).length = 4
      ∧ codeUnit? (Text.hexadecimal 4 code) = some code := by
  decide

/-- The code unit of a control character is read back. -/
theorem readCodeUnit_yields {c : Char} {more : Text} (control : c.toNat < 0x20)
    (follows : more ≠ []) (position : Nat) :
    Yields (readCodeUnit ⟨Text.hexadecimal 4 c.toNat ++ more, position⟩) c more := by
  obtain ⟨four, code⟩ := hexadecimal_control c.toNat control
  have dropped : (Text.hexadecimal 4 c.toNat ++ more).drop 4 = more := List.drop_left' four
  have taken : (Text.hexadecimal 4 c.toNat ++ more).take 4 = Text.hexadecimal 4 c.toNat :=
    List.take_left' four
  have whole : unitChar c.toNat = c := by
    rw [unitChar, if_neg, Char.ofNat_toNat]
    simp only [Bool.and_eq_true, decide_eq_true_eq]
    omega
  refine ⟨position + 4, ?_⟩
  rw [readCodeUnit]
  simp only [dropped, taken, code, Rest.drop, List.isEmpty_iff, follows, if_false]
  split
  · rw [if_neg, whole]
    simp only [Bool.and_eq_true, decide_eq_true_eq]
    omega
  · rw [whole]

/-- A character that needs no escape is read as it stands. -/
theorem readText_plain (start fuel : Nat) {c : Char} (more : Text) (position : Nat)
    (quote : c ≠ '"') (backslash : c ≠ '\\') (visible : ¬ c.toNat < 0x20) :
    readText start (fuel + 1) ⟨c :: more, position⟩
      = (readText start fuel ⟨more, position + 1⟩).map fun (text, last) => (c :: text, last) := by
  rw [readText]
  split
  case h_6 equal =>
    obtain ⟨rfl, rfl⟩ := List.cons.inj equal
    exact if_neg visible
  all_goals simp_all

/-- A written character is read back, if the text goes on behind it. -/
theorem readText_writeChar (start fuel : Nat) (c : Char) {more : Text} (follows : more ≠ [])
    (position : Nat) :
    ∃ after, readText start (fuel + 1) ⟨writeChar c ++ more, position⟩
      = (readText start fuel ⟨more, after⟩).map fun (text, last) => (c :: text, last) := by
  unfold writeChar
  split
  case h_8 _ quote backslash _ _ _ _ _ =>
    by_cases control : c.toNat < 0x20
    · obtain ⟨after, read⟩ := readCodeUnit_yields control follows (position + 2)
      refine ⟨after, ?_⟩
      rw [if_pos control, readText]
      simp only [List.cons_append, Rest.drop, List.drop_succ_cons, List.drop_zero, read]
    · rw [if_neg control]
      exact ⟨position + 1, readText_plain start fuel more position quote backslash control⟩
  all_goals exact ⟨_, rfl⟩

/-- **A text in quotes is read back.** -/
theorem readText_yields (start : Nat) {text : Text} {fuel : Nat} (enough : text.length < fuel)
    (more : Text) (position : Nat) :
    Yields (readText start fuel ⟨text.flatMap writeChar ++ '"' :: more, position⟩) text more := by
  induction text generalizing fuel position with
  | nil =>
    cases fuel with
    | zero => exact absurd enough (Nat.not_lt_zero _)
    | succ fuel => exact ⟨position + 1, rfl⟩
  | cons c text ih =>
    cases fuel with
    | zero => exact absurd enough (Nat.not_lt_zero _)
    | succ fuel =>
      have follows : text.flatMap writeChar ++ '"' :: more ≠ [] := by simp
      obtain ⟨after, step⟩ := readText_writeChar start fuel c follows position
      obtain ⟨last, rest⟩ := ih (Nat.lt_of_succ_lt_succ enough) after
      refine ⟨last, ?_⟩
      rw [List.flatMap_cons, List.append_assoc, step, rest]
      rfl

/-- Escapes make a text no shorter. -/
theorem length_le_flatMap_writeChar (text : Text) :
    text.length ≤ (text.flatMap writeChar).length := by
  have one (c : Char) : 0 < (writeChar c).length := by
    unfold writeChar
    split
    case h_8 => split <;> simp
    all_goals simp
  induction text with
  | nil => exact Nat.le_refl 0
  | cons c text ih =>
    have := one c
    simp only [List.flatMap_cons, List.length_append, List.length_cons]
    omega

/-! ### Whole numbers -/

theorem isDigit_of_mem_toDigits {c : Char} {number : Nat} (member : c ∈ Nat.toDigits 10 number) :
    c.isDigit = true := Nat.isDigit_of_mem_toDigits (by decide) (by decide) member

theorem write_whole (number : Nat) : write (.whole number) = Nat.toDigits 10 number := by
  simp [write, Int.repr]

/-- Whether what follows a number does not belong to it. -/
def EndsNumber (more : Text) : Prop :=
  ∀ c ∈ more.head?, ¬ c.isDigit ∧ c ≠ '.' ∧ c ≠ 'e' ∧ c ≠ 'E'

/-- Only zero begins with a zero. -/
theorem head?_toDigits_ne {number : Nat} (positive : 0 < number) :
    (Nat.toDigits 10 number).head? ≠ some '0' := by
  induction number using Nat.base_induction 10 (by decide) with
  | single number small =>
    rw [Nat.toDigits_of_lt_base small]
    simpa using Nat.ne_of_gt positive
  | digit front digit small more ih =>
    rw [← Nat.toDigits_append_toDigits (by decide) more small,
      List.head?_append_of_ne_nil _ Nat.toDigits_ne_nil]
    exact ih more

/-- The digits of a number end where it ends. -/
theorem takeWhile_toDigits (number : Nat) {more : Text} (ends : EndsNumber more) :
    (Nat.toDigits 10 number ++ more).takeWhile Char.isDigit = Nat.toDigits 10 number := by
  have after : more.takeWhile Char.isDigit = [] := by
    cases more with
    | nil => rfl
    | cons c rest => exact List.takeWhile_cons_of_neg (ends c rfl).1
  rw [List.takeWhile_append_of_pos fun c member => isDigit_of_mem_toDigits member, after,
    List.append_nil]

/-- The digits of a number in front of a text are read as a whole number. -/
theorem wholeDigits_toDigits (number : Nat) {more : Text} (ends : EndsNumber more) :
    wholeDigits (Nat.toDigits 10 number ++ more) = Nat.toDigits 10 number := by
  rw [wholeDigits.eq_def]
  split
  · next zero =>
    rcases Nat.eq_zero_or_pos number with rfl | positive
    · rfl
    · have first := congrArg List.head? zero
      rw [List.head?_append_of_ne_nil _ Nat.toDigits_ne_nil] at first
      exact absurd first (head?_toDigits_ne positive)
  · exact takeWhile_toDigits number ends

theorem decimal_toDigits (number : Nat) : decimal (Nat.toDigits 10 number) = number := by
  have same :
      decimal (Nat.toDigits 10 number) = Nat.ofDigitChars 10 (Nat.toDigits 10 number) 0 := by
    simp only [decimal, Nat.ofDigitChars, Nat.mul_comm]
  rw [same, Nat.ofDigitChars_ten_toDigits]

/-- What cannot go on with a number has no fraction and no power in front. -/
theorem EndsNumber.fractionDigits {more : Text} (ends : EndsNumber more) :
    fractionDigits more = [] := by
  rw [Json.fractionDigits.eq_def]
  split
  · exact absurd rfl (ends '.' rfl).2.1
  · rfl

theorem EndsNumber.exponent? {more : Text} (ends : EndsNumber more) : exponent? more = none := by
  cases more with
  | nil => rfl
  | cons c rest =>
    obtain ⟨-, -, lower, upper⟩ := ends c rfl
    simp [Json.exponent?, lower, upper]

/-- **A whole number is read back**, if it is not too long. -/
theorem readNumber_yields (number : Nat) {more : Text} (ends : EndsNumber more)
    (short : (Nat.toDigits 10 number).length ≤ Text.longestNumeral) (position : Nat) :
    Yields (readNumber ⟨Nat.toDigits 10 number ++ more, position⟩) (.whole number) more := by
  have unsigned : ((Nat.toDigits 10 number ++ more).head? == some '-') = false := by
    rw [List.head?_append_of_ne_nil _ Nat.toDigits_ne_nil]
    refine beq_eq_false_iff_ne.mpr fun sign => ?_
    exact absurd (isDigit_of_mem_toDigits (List.mem_of_head? sign)) (by decide)
  refine ⟨position + (Nat.toDigits 10 number).length, ?_⟩
  rw [readNumber]
  simp only [unsigned, wholeDigits_toDigits number ends, Rest.drop, List.drop_left,
    ends.fractionDigits, ends.exponent?, decimal_toDigits, List.isEmpty_iff, Nat.toDigits_ne_nil,
    List.isEmpty_nil, Nat.not_lt.mpr short, if_true, if_false, Bool.false_eq_true]

/-! ### Plain values -/

/-- The values that fields of settings have. -/
inductive IsPlain : Json → Prop
  | string (text : Text) : IsPlain (.string text)
  | boolean (value : Bool) : IsPlain (.boolean value)
  | whole (number : Nat) (short : (Nat.toDigits 10 number).length ≤ Text.longestNumeral) :
    IsPlain (.whole number)

/-- What begins with a digit is none of the words. -/
theorem readPlain_digit {c : Char} (digit : c.isDigit) (more : Text) (position : Nat) :
    readPlain ⟨c :: more, position⟩ = readNumber ⟨c :: more, position⟩ := by
  have noWord : (words.find? fun entry => entry.1.toList.isPrefixOf (c :: more)) = none := by
    rw [List.find?_eq_none]
    have letters : ∀ entry ∈ words, ∃ first rest, entry.1.toList = first :: rest
        ∧ first.isDigit = false := by
      simp [words]
    intro entry member
    obtain ⟨first, rest, spelled, letter⟩ := letters entry member
    rw [spelled, List.isPrefixOf_cons_cons]
    rintro found
    have same := eq_of_beq (Bool.and_eq_true_iff.mp found).1
    rw [same, digit] at letter
    cases letter
  simp only [readPlain, noWord]

theorem readValue_digit {c : Char} (digit : c.isDigit) (fuel : Nat) (more : Text) (position : Nat) :
    readValue (fuel + 1) ⟨c :: more, position⟩ = readNumber ⟨c :: more, position⟩ := by
  rw [readValue.eq_def]
  simp only
  split
  case h_4 => exact readPlain_digit digit more position
  all_goals
    next equal =>
      obtain ⟨rfl, -⟩ := List.cons.inj equal
      exact absurd digit (by decide)

/-- **A plain value is read back.** -/
theorem IsPlain.readValue_yields {value : Json} (plain : IsPlain value) {more : Text}
    (ends : EndsNumber more) (fuel position : Nat) :
    Yields (readValue (fuel + 1) ⟨write value ++ more, position⟩) value more := by
  cases plain with
  | string text =>
    have spelled :
        write (.string text) ++ more = '"' :: (text.flatMap writeChar ++ '"' :: more) := by
      simp [write, writeText]
    have enough : text.length < (write (.string text) ++ more).length := by
      have := length_le_flatMap_writeChar text
      simp only [spelled, List.length_append, List.length_cons]
      omega
    obtain ⟨last, read⟩ := readText_yields position enough more (position + 1)
    refine ⟨last, ?_⟩
    rw [readValue.eq_def]
    rw [spelled] at read ⊢
    simp only [Rest.drop, List.drop_succ_cons, List.drop_zero, read]
    rfl
  | boolean value => cases value <;> exact ⟨_, rfl⟩
  | whole number short =>
    obtain ⟨last, read⟩ := readNumber_yields number ends short position
    refine ⟨last, ?_⟩
    rw [write_whole]
    cases shape : Nat.toDigits 10 number with
    | nil => exact absurd shape Nat.toDigits_ne_nil
    | cons c digits =>
      have digit : c.isDigit := isDigit_of_mem_toDigits (shape ▸ List.mem_cons_self)
      rw [shape] at read
      exact (readValue_digit digit fuel _ position).trans read

/-! ### Objects -/

/-- The separators in front of a text are passed. -/
theorem skip_append (blanks : Text) {more : Text} (separators : blanks.all Rest.isSeparator)
    (starts : ∀ c ∈ more.head?, Rest.isSeparator c = false) (position : Nat) :
    Rest.skip ⟨blanks ++ more, position⟩ = ⟨more, position + blanks.length⟩ := by
  have front : (blanks ++ more).takeWhile Rest.isSeparator = blanks := by
    have after : more.takeWhile Rest.isSeparator = [] := by
      cases more with
      | nil => rfl
      | cons c rest => exact List.takeWhile_cons_of_neg (by simp [starts c rfl])
    rw [List.takeWhile_append_of_pos (List.all_eq_true.mp separators), after, List.append_nil]
  rw [Rest.skip]
  simp only [front, Rest.drop, List.drop_left]

/-- Fields put into an object one after the other. -/
def setAll (done fields : List (Text × Json)) : List (Text × Json) :=
  fields.foldl (fun done field => setField done field.1 field.2) done

theorem setField_of_not_mem {fields : List (Text × Json)} {key : Text} (value : Json)
    (other : key ∉ fields.map Prod.fst) : setField fields key value = fields ++ [(key, value)] := by
  induction fields with
  | nil => rfl
  | cons field fields ih =>
    simp only [List.map_cons, List.mem_cons, not_or] at other
    rw [setField, if_neg (Ne.symm other.1), ih other.2, List.cons_append]

/-- Fields with different keys keep their order. -/
theorem setAll_eq {done fields : List (Text × Json)}
    (different : (done ++ fields).map Prod.fst |>.Nodup) : setAll done fields = done ++ fields := by
  induction fields generalizing done with
  | nil => exact (List.append_nil done).symm
  | cons field fields ih =>
    have other : field.1 ∉ done.map Prod.fst := by
      rw [List.map_append, List.map_cons] at different
      exact fun member => (List.nodup_append.mp different).2.2 _ member _ List.mem_cons_self rfl
    have step : setField done field.1 field.2 = done ++ [field] := setField_of_not_mem _ other
    calc setAll done (field :: fields)
        = setAll (done ++ [field]) fields := by rw [setAll, List.foldl_cons, step, setAll]
      _ = done ++ [field] ++ fields := ih (by rwa [List.append_assoc])
      _ = done ++ field :: fields := List.append_assoc _ _ _

/-- A plain value does not begin with a separator. -/
theorem IsPlain.starts {value : Json} (plain : IsPlain value) (more : Text) :
    ∀ c ∈ (write value ++ more).head?, Rest.isSeparator c = false := by
  cases plain with
  | string text => simp [write, writeText, Rest.isSeparator]
  | boolean value => cases value <;> simp [write, Rest.isSeparator]
  | whole number short =>
    intro c first
    rw [write_whole, List.head?_append_of_ne_nil _ Nat.toDigits_ne_nil] at first
    have digit := isDigit_of_mem_toDigits (List.mem_of_head? first)
    simp only [Rest.isSeparator, Bool.or_eq_false_iff, decide_eq_false_iff_not]
    refine ⟨⟨⟨?_, ?_⟩, ?_⟩, ?_⟩ <;> rintro rfl <;> exact absurd digit (by decide)

/-- What stands behind the opening quote of a field. -/
def behindQuote (key rest : Text) : Text := key.flatMap writeChar ++ '"' :: ':' :: ' ' :: rest

/-- How reading goes on behind a field: at the end of the object, with another field, or not. -/
def readBehind (fuel : Nat) (fields : List (Text × Json)) (after : Rest) :
    Except JsonError (List (Text × Json) × Rest) :=
  match after.text with
  | '\x7d' :: _ => .ok (fields, after.drop 1)
  | ',' :: _ => readFields fuel fields (after.drop 1).skip
  | _ => after.fail .commaExpected

/-- **A written field is read back**: what is left is what stands behind its value. -/
theorem readFields_field {key : Text} {value : Json} (plain : IsPlain value) {tail : Text}
    (ends : EndsNumber tail) (fuel : Nat) (done : List (Text × Json)) (position : Nat) :
    ∃ after, readFields (fuel + 2) done
        (Rest.skip ⟨"\n  ".toList ++ writeText key ++ ": ".toList ++ write value ++ tail, position⟩)
      = readBehind (fuel + 1) (setField done key value) (Rest.skip ⟨tail, after⟩) := by
  have spelled : "\n  ".toList ++ writeText key ++ ": ".toList ++ write value ++ tail
      = "\n  ".toList ++ '"' :: behindQuote key (write value ++ tail) := by
    simp [writeText, behindQuote]
  have enough : key.length < ('"' :: behindQuote key (write value ++ tail)).length := by
    have := length_le_flatMap_writeChar key
    simp only [behindQuote, List.length_append, List.length_cons]
    omega
  obtain ⟨colon, name⟩ := readText_yields (position + 3) enough
    (':' :: ' ' :: (write value ++ tail)) (position + 3 + 1)
  obtain ⟨after, read⟩ := plain.readValue_yields ends fuel (colon + 1 + 1)
  refine ⟨after, ?_⟩
  have front : Rest.skip ⟨"\n  ".toList ++ '"' :: behindQuote key (write value ++ tail), position⟩
      = ⟨'"' :: behindQuote key (write value ++ tail), position + 3⟩ :=
    skip_append _ (by decide) (by simp [Rest.isSeparator]) position
  have middle : Rest.skip ⟨':' :: ' ' :: (write value ++ tail), colon⟩
      = ⟨':' :: ' ' :: (write value ++ tail), colon⟩ :=
    skip_append [] rfl (by simp [Rest.isSeparator]) colon
  have back : Rest.skip ⟨' ' :: (write value ++ tail), colon + 1⟩
      = ⟨write value ++ tail, colon + 1 + 1⟩ :=
    skip_append [' '] rfl (plain.starts tail) (colon + 1)
  rw [spelled, front, readFields.eq_def]
  rw [← behindQuote] at name
  simp only [Rest.drop, List.drop_succ_cons, List.drop_zero, name, middle, back, read]
  rfl

/-- **Written fields are read back**, up to the brace behind them. -/
theorem readFields_yields {key : Text} {value : Json} {fields : List (Text × Json)}
    (plain : ∀ field ∈ (key, value) :: fields, IsPlain field.2) {fuel : Nat}
    (enough : fields.length < fuel) (done : List (Text × Json)) (more : Text) (position : Nat) :
    Yields (readFields (fuel + 1) done
        (Rest.skip ⟨writeLines ((key, value) :: fields) ++ '\n' :: '\x7d' :: more, position⟩))
      (setAll done ((key, value) :: fields)) more := by
  -- The induction follows the fields behind the first one; each of them costs one unit of fuel.
  induction fields generalizing key value fuel done position with
  | nil =>
    cases fuel with
    | zero => exact absurd enough (Nat.not_lt_zero _)
    | succ fuel =>
      have ends : EndsNumber ('\n' :: '\x7d' :: more) := by simp [EndsNumber]
      obtain ⟨after, step⟩ :=
        readFields_field (plain _ List.mem_cons_self) ends fuel done position
      have brace : Rest.skip ⟨'\n' :: '\x7d' :: more, after⟩ = ⟨'\x7d' :: more, after + 1⟩ :=
        skip_append ['\n'] rfl (by simp [Rest.isSeparator]) after
      rw [brace] at step
      exact ⟨after + 2, step⟩
  | cons next fields ih =>
    cases fuel with
    | zero => exact absurd enough (Nat.not_lt_zero _)
    | succ fuel =>
      have ends : EndsNumber (',' :: (writeLines (next :: fields) ++ '\n' :: '\x7d' :: more)) := by
        simp [EndsNumber]
      obtain ⟨after, step⟩ :=
        readFields_field (plain _ List.mem_cons_self) ends fuel done position
      have comma : Rest.skip ⟨',' :: (writeLines (next :: fields) ++ '\n' :: '\x7d' :: more), after⟩
          = ⟨',' :: (writeLines (next :: fields) ++ '\n' :: '\x7d' :: more), after⟩ :=
        skip_append [] rfl (by simp [Rest.isSeparator]) after
      have spelled : writeLines ((key, value) :: next :: fields) ++ '\n' :: '\x7d' :: more
          = "\n  ".toList ++ writeText key ++ ": ".toList ++ write value
            ++ ',' :: (writeLines (next :: fields) ++ '\n' :: '\x7d' :: more) := by
        simp [writeLines]
      obtain ⟨last, rest⟩ := ih (fun field member => plain field (List.mem_cons_of_mem _ member))
        (Nat.lt_of_succ_lt_succ enough) (setField done key value) (after + 1)
      rw [comma] at step
      refine ⟨last, ?_⟩
      rw [spelled, step]
      exact rest

/-- Each field is on a line of its own. -/
theorem length_le_writeLines (fields : List (Text × Json)) :
    fields.length ≤ (writeLines fields).length := by
  fun_induction writeLines fields with
  | case1 => exact Nat.le_refl 0
  | case2 key value => simp
  | case3 key value rest more ih =>
    simp only [List.length_append, List.length_cons]
    omega

theorem exists_writeLines (field : Text × Json) (fields : List (Text × Json)) :
    ∃ rest, writeLines (field :: fields) = "\n  ".toList ++ '"' :: rest := by
  cases fields <;> exact ⟨_, by simp [writeLines, writeText]; rfl⟩

/-- **A written object is read back**, with separators behind it. -/
theorem read_writeIndented {fields : List (Text × Json)}
    (plain : ∀ field ∈ fields, IsPlain field.2) (different : (fields.map Prod.fst).Nodup)
    {blanks : Text} (separators : blanks.all Rest.isSeparator) :
    read (writeIndented fields ++ blanks) = .ok (.object fields) := by
  have ended (position : Nat) : Rest.skip ⟨blanks, position⟩ = ⟨[], position + blanks.length⟩ := by
    have skipped := @skip_append blanks [] separators nofun position
    rwa [List.append_nil] at skipped
  have started (body : Text) : Rest.skip ⟨'\x7b' :: body, 0⟩ = ⟨'\x7b' :: body, 0⟩ :=
    skip_append [] rfl (by simp [Rest.isSeparator]) 0
  cases fields with
  | nil =>
    have brace : Rest.skip ⟨'\x7d' :: blanks, 0 + 1⟩ = ⟨'\x7d' :: blanks, 0 + 1⟩ :=
      skip_append [] rfl (by simp [Rest.isSeparator]) 1
    have spelled : writeIndented [] ++ blanks = '\x7b' :: '\x7d' :: blanks := rfl
    rw [spelled, Json.read, if_neg (by simp), started, readValue.eq_def]
    simp only [Rest.drop, List.drop_succ_cons, List.drop_zero, brace, List.head?_cons, if_true,
      ended, List.isEmpty_nil]
  | cons field fields =>
    have spelled : writeIndented (field :: fields) ++ blanks
        = '\x7b' :: (writeLines (field :: fields) ++ '\n' :: '\x7d' :: blanks) := by
      simp [writeIndented]
    have enough :
        fields.length < (writeLines (field :: fields) ++ '\n' :: '\x7d' :: blanks).length := by
      have := length_le_writeLines (field :: fields)
      simp only [List.length_append, List.length_cons] at this ⊢
      omega
    -- The fuel is the length of the text, and each field has a line of its own there.
    obtain ⟨after, read⟩ := readFields_yields plain enough [] blanks (0 + 1)
    rw [setAll_eq different, List.nil_append] at read
    obtain ⟨rest, lines⟩ := exists_writeLines field fields
    have quote : Rest.skip ⟨writeLines (field :: fields) ++ '\n' :: '\x7d' :: blanks, 0 + 1⟩
        = ⟨'"' :: (rest ++ '\n' :: '\x7d' :: blanks), 0 + 1 + 3⟩ := by
      rw [lines, List.append_assoc]
      exact skip_append _ (by decide) (by simp [Rest.isSeparator]) (0 + 1)
    rw [spelled, Json.read, if_neg (by simp), started, readValue.eq_def]
    rw [quote] at read
    simp only [Rest.drop, List.drop_succ_cons, List.drop_zero, quote, List.head?_cons,
      List.length_cons, Option.some.injEq, Char.reduceEq, if_false, read, Except.map, ended,
      List.isEmpty_nil, if_true]

/-! ### Control characters -/

/-- Whether a character is not a control character. -/
def IsVisible (c : Char) : Prop := 0x20 ≤ c.toNat

instance : DecidablePred IsVisible := fun c => inferInstanceAs (Decidable (0x20 ≤ c.toNat))

theorem hexadecimal_visible {code : Nat} (low : code < 0x20) {d : Char}
    (member : d ∈ Text.hexadecimal 4 code) : IsVisible d := by
  have all : ∀ code < 0x20, (Text.hexadecimal 4 code).all fun d => decide (IsVisible d) := by
    decide
  exact of_decide_eq_true (List.all_eq_true.mp (all code low) d member)

/-- A written character shows no control character. -/
theorem writeChar_visible {c d : Char} (member : d ∈ writeChar c) : IsVisible d := by
  unfold writeChar at member
  split at member
  case h_8 =>
    split at member
    · next control =>
      simp only [List.mem_cons] at member
      rcases member with rfl | rfl | digit
      · decide
      · decide
      · exact hexadecimal_visible control digit
    · next visible =>
      rw [List.mem_singleton.mp member]
      exact Nat.le_of_not_lt visible
  all_goals
    simp only [List.mem_cons, List.not_mem_nil, or_false] at member
    rcases member with rfl | rfl <;> decide

theorem writeText_visible {text : Text} {d : Char} (member : d ∈ writeText text) :
    IsVisible d := by
  simp only [writeText, List.cons_append, List.mem_cons, List.mem_append, List.mem_flatMap,
    List.not_mem_nil, or_false] at member
  rcases member with rfl | ⟨c, -, member⟩ | rfl
  · decide
  · exact writeChar_visible member
  · decide

theorem IsPlain.visible {value : Json} (plain : IsPlain value) {d : Char}
    (member : d ∈ write value) : IsVisible d := by
  cases plain with
  | string text => exact writeText_visible (by rwa [write] at member)
  | boolean value =>
    have letters : ∀ value, (write (.boolean value)).all fun d => decide (IsVisible d) := by decide
    exact of_decide_eq_true (List.all_eq_true.mp (letters value) d member)
  | whole number short =>
    rw [write_whole] at member
    have digit := isDigit_of_mem_toDigits member
    exact Nat.le_trans (by decide) (Char.isDigit_iff_toNat.mp digit).1

/-- The only control character of a written field is the line feed in front. -/
theorem IsPlain.line_visible {value : Json} (plain : IsPlain value) {key : Text} {d : Char}
    (member : d ∈ "\n  ".toList ++ writeText key ++ ": ".toList ++ write value) :
    IsVisible d ∨ d = '\n' := by
  have blanks : ∀ d ∈ "\n  ".toList ++ ": ".toList, IsVisible d ∨ d = '\n' := by
    simp [IsVisible]
  simp only [List.mem_append] at member blanks
  rcases member with ((blank | name) | colon) | written
  · exact blanks d (.inl blank)
  · exact .inl (writeText_visible name)
  · exact blanks d (.inr colon)
  · exact .inl (plain.visible written)

theorem writeLines_visible {fields : List (Text × Json)}
    (plain : ∀ field ∈ fields, IsPlain field.2) {d : Char} (member : d ∈ writeLines fields) :
    IsVisible d ∨ d = '\n' := by
  fun_induction writeLines fields with
  | case1 => cases member
  | case2 key value => exact (plain _ List.mem_cons_self).line_visible member
  | case3 key value rest more ih =>
    rcases List.mem_append.mp member with first | behind
    · exact (plain _ List.mem_cons_self).line_visible first
    · rcases List.mem_cons.mp behind with rfl | later
      · exact .inl (by decide)
      · exact ih (fun field inside => plain field (List.mem_cons_of_mem _ inside)) later

/-- **A written object holds no carriage return.** -/
theorem carriage_not_mem_writeIndented {fields : List (Text × Json)}
    (plain : ∀ field ∈ fields, IsPlain field.2) : '\r' ∉ writeIndented fields := by
  have ends : '\r' ∉ ['\x7b', '\x7d'] ++ ['\n', '\x7d'] := by decide
  intro member
  rw [writeIndented] at member
  split at member
  · exact ends (List.mem_append_left _ member)
  · simp only [List.cons_append, List.mem_cons, List.mem_append] at member
    rcases member with brace | inside | closing
    · exact absurd brace (by decide)
    · exact absurd (writeLines_visible plain inside) (by decide)
    · exact ends (List.mem_append_right _ (by simp at closing))

end FeedFilter.Json
