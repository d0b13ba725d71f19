/-
**Texts and their bytes.**

A code point is written with one to four bytes: a first byte, and behind it bytes that go on with
the character. No code point has a second form, and the halves of pairs have none.

* `Spells`: the bytes that write a code point.
* `spells_encodeChar`, `Spells.encodeChar_eq`: they are the encoding of its character.
* `Spells.decodeFrom_append`: they are read as this character, whatever follows.
* `exists_spells`: what is read begins with the bytes of a code point.
* `decode_eq_ok_iff`: bytes are read as a text just where they are its encoding.
-/

import FeedFilter.Text.Utf8

namespace FeedFilter.Text

/-! ### The bytes of a character -/

/-- Whether a byte continues a character. -/
def IsTail (next : UInt8) : Prop := 0x80 ≤ next.toNat ∧ next.toNat ≤ 0xBF

/-- The bytes that write a code point. The second byte is bounded further after some first ones, so
that no code point has a longer form and no half of a pair has any. -/
inductive Spells : List UInt8 → Nat → Prop
  | one {first : UInt8} (low : first.toNat < 0x80) : Spells [first] first.toNat
  | two {first second : UInt8} (low : 0xC2 ≤ first.toNat) (high : first.toNat < 0xE0)
      (tail : IsTail second) :
      Spells [first, second] ((first.toNat - 0xC0) * 64 + (second.toNat - 0x80))
  | three {first second third : UInt8} (low : 0xE0 ≤ first.toNat) (high : first.toNat < 0xF0)
      (tail : IsTail second) (shortest : first.toNat = 0xE0 → 0xA0 ≤ second.toNat)
      (whole : first.toNat = 0xED → second.toNat ≤ 0x9F) (last : IsTail third) :
      Spells [first, second, third]
        (((first.toNat - 0xE0) * 64 + (second.toNat - 0x80)) * 64 + (third.toNat - 0x80))
  | four {first second third fourth : UInt8} (low : 0xF0 ≤ first.toNat) (high : first.toNat ≤ 0xF4)
      (tail : IsTail second) (shortest : first.toNat = 0xF0 → 0x90 ≤ second.toNat)
      (bounded : first.toNat = 0xF4 → second.toNat ≤ 0x8F) (more : IsTail third)
      (last : IsTail fourth) :
      Spells [first, second, third, fourth]
        ((((first.toNat - 0xF0) * 64 + (second.toNat - 0x80)) * 64 + (third.toNat - 0x80)) * 64
          + (fourth.toNat - 0x80))

theorem toNat_byte {number : Nat} (small : number < 256) : (byte number).toNat = number := by
  rw [byte, UInt8.toNat_ofNat', Nat.mod_eq_of_lt small]

theorem byte_eq {number : Nat} {next : UInt8} (equal : number = next.toNat) :
    byte number = next := by
  rw [equal, byte, UInt8.ofNat_toNat]

theorem toNat_ofNat_of_isValidChar {code : Nat} (valid : code.isValidChar) :
    (Char.ofNat code).toNat = code := by
  rw [Char.ofNat, dif_pos valid]
  rfl

variable {bytes : List UInt8} {code : Nat}

theorem Spells.isValidChar (spells : Spells bytes code) : code.isValidChar := by
  unfold Nat.isValidChar
  cases spells with
  | one low => omega
  | two low high tail => unfold IsTail at tail; omega
  | three low high tail shortest whole last => unfold IsTail at tail last; omega
  | four low high tail shortest bounded more last => unfold IsTail at tail more last; omega

/-- **What writes a code point is its encoding.** -/
theorem Spells.encodeChar_eq (spells : Spells bytes code) :
    encodeChar (Char.ofNat code) = bytes := by
  rw [encodeChar, toNat_ofNat_of_isValidChar spells.isValidChar]
  cases spells with
  | one low => rw [if_pos low, byte_eq rfl]
  | two low high tail =>
    unfold IsTail at tail
    rw [if_neg (by omega), if_pos (by omega)]
    simp only [List.cons.injEq, and_true]
    exact ⟨byte_eq (by omega), byte_eq (by omega)⟩
  | three low high tail shortest whole last =>
    unfold IsTail at tail last
    rw [if_neg (by omega), if_neg (by omega), if_pos (by omega)]
    simp only [List.cons.injEq, and_true]
    exact ⟨byte_eq (by omega), byte_eq (by omega), byte_eq (by omega)⟩
  | four low high tail shortest bounded more last =>
    unfold IsTail at tail more last
    rw [if_neg (by omega), if_neg (by omega), if_neg (by omega)]
    simp only [List.cons.injEq, and_true]
    exact ⟨byte_eq (by omega), byte_eq (by omega), byte_eq (by omega), byte_eq (by omega)⟩

/-- **The encoding of a character writes its code point.** -/
theorem spells_encodeChar (c : Char) : Spells (encodeChar c) c.toNat := by
  have valid : c.toNat.isValidChar := c.valid
  unfold Nat.isValidChar at valid
  have tail : ∀ part, (byte (0x80 + part % 64)).toNat = 0x80 + part % 64 :=
    fun part => toNat_byte (by omega)
  have isTail : ∀ part, IsTail (byte (0x80 + part % 64)) := fun part => by
    unfold IsTail
    rw [tail]
    omega
  unfold encodeChar
  dsimp only
  split
  · next single =>
    have first : (byte c.toNat).toNat = c.toNat := toNat_byte (by omega)
    have spelled : Spells [byte c.toNat] (byte c.toNat).toNat := .one (by omega)
    rwa [first] at spelled
  split
  · have first : (byte (0xC0 + c.toNat / 64)).toNat = 0xC0 + c.toNat / 64 := toNat_byte (by omega)
    have spelled : Spells [byte (0xC0 + c.toNat / 64), byte (0x80 + c.toNat % 64)] _ :=
      .two (by omega) (by omega) (isTail _)
    rw [first, tail] at spelled
    exact (congrArg (Spells _) (by omega)).mp spelled
  split
  · have first : (byte (0xE0 + c.toNat / 4096)).toNat = 0xE0 + c.toNat / 4096 :=
      toNat_byte (by omega)
    have second := tail (c.toNat / 64)
    have spelled : Spells [byte (0xE0 + c.toNat / 4096), byte (0x80 + c.toNat / 64 % 64),
        byte (0x80 + c.toNat % 64)] _ :=
      .three (by omega) (by omega) (isTail _) (by omega) (by omega) (isTail _)
    rw [first, tail, tail] at spelled
    exact (congrArg (Spells _) (by omega)).mp spelled
  · have first : (byte (0xF0 + c.toNat / 262144)).toNat = 0xF0 + c.toNat / 262144 :=
      toNat_byte (by omega)
    have second := tail (c.toNat / 4096)
    have spelled : Spells [byte (0xF0 + c.toNat / 262144), byte (0x80 + c.toNat / 4096 % 64),
        byte (0x80 + c.toNat / 64 % 64), byte (0x80 + c.toNat % 64)] _ :=
      .four (by omega) (by omega) (isTail _) (by omega) (by omega) (isTail _) (isTail _)
    rw [first, tail, tail, tail] at spelled
    exact (congrArg (Spells _) (by omega)).mp spelled

/-! ### Reading a character -/

theorem following?_one {first : Nat} (low : first < 0x80) :
    following? first = some (0, 0x80, 0xBF) := if_pos low

theorem following?_two {first : Nat} (low : 0xC2 ≤ first) (high : first < 0xE0) :
    following? first = some (1, 0x80, 0xBF) := by
  rw [following?, if_neg (by omega), if_neg (by omega), if_pos high]

theorem following?_three {first : Nat} (low : 0xE0 ≤ first) (high : first < 0xF0) :
    following? first
      = some (2, if first = 0xE0 then 0xA0 else 0x80, if first = 0xED then 0x9F else 0xBF) := by
  rw [following?, if_neg (by omega), if_neg (by omega), if_neg (by omega)]
  by_cases least : first = 0xE0
  · rw [if_pos least, if_pos least, if_neg (by omega)]
  by_cases halves : first = 0xED
  · rw [if_neg least, if_pos halves, if_neg least, if_pos halves]
  · rw [if_neg least, if_neg halves, if_pos high, if_neg least, if_neg halves]

theorem following?_four {first : Nat} (low : 0xF0 ≤ first) (high : first ≤ 0xF4) :
    following? first
      = some (3, if first = 0xF0 then 0x90 else 0x80, if first = 0xF4 then 0x8F else 0xBF) := by
  rw [following?, if_neg (by omega), if_neg (by omega), if_neg (by omega), if_neg (by omega),
    if_neg (by omega), if_neg (by omega)]
  by_cases least : first = 0xF0
  · rw [if_pos least, if_pos least, if_neg (by omega)]
  by_cases greatest : first = 0xF4
  · rw [if_neg least, if_neg (by omega), if_pos greatest, if_neg least, if_pos greatest]
  · rw [if_neg least, if_pos (by omega), if_neg least, if_neg greatest]

/-- No other byte begins a character. -/
theorem following?_cases (first : Nat) :
    first < 0x80 ∨ (0xC2 ≤ first ∧ first < 0xE0) ∨ (0xE0 ≤ first ∧ first < 0xF0)
      ∨ (0xF0 ≤ first ∧ first ≤ 0xF4) ∨ following? first = none := by
  by_cases between : 0x80 ≤ first ∧ first < 0xC2
  · rw [following?, if_neg (by omega), if_pos between.2]
    simp
  by_cases beyond : 0xF4 < first
  · rw [following?, if_neg (by omega), if_neg (by omega), if_neg (by omega), if_neg (by omega),
      if_neg (by omega), if_neg (by omega), if_neg (by omega), if_neg (by omega), if_neg (by omega)]
    simp
  · omega

section Reading

variable {next : UInt8} {left low high : Nat} (position : Nat) (rest : List UInt8)

theorem decodeFrom_single (single : following? next.toNat = some (0, low, high)) :
    decodeFrom none position (next :: rest)
      = (decodeFrom none (position + 1) rest).map (Char.ofNat next.toNat :: ·) := by
  rw [decodeFrom, single]

theorem decodeFrom_first (opens : following? next.toNat = some (left + 1, low, high)) :
    decodeFrom none position (next :: rest)
      = decodeFrom
          (some ⟨leading (left + 1) next.toNat, left + 1, low, high, next.toNat, position⟩)
          (position + 1) rest := by
  rw [decodeFrom, opens]

variable {code first start : Nat} (atLeast : low ≤ next.toNat) (atMost : next.toNat ≤ high)

include atLeast atMost

theorem decodeFrom_middle :
    decodeFrom (some ⟨code, left + 2, low, high, first, start⟩) position (next :: rest)
      = decodeFrom
          (some ⟨code * 64 + (next.toNat - 0x80), left + 1, 0x80, 0xBF, first, start⟩)
          (position + 1) rest := by
  rw [decodeFrom, if_pos (by simp [atLeast, atMost])]
  exact if_neg (by simp)

theorem decodeFrom_last :
    decodeFrom (some ⟨code, 1, low, high, first, start⟩) position (next :: rest)
      = (decodeFrom none (position + 1) rest).map
          (Char.ofNat (code * 64 + (next.toNat - 0x80)) :: ·) := by
  rw [decodeFrom, if_pos (by simp [atLeast, atMost])]
  exact if_pos (Nat.le_refl 1)

end Reading

/-- **The bytes of a code point are read as its character**, whatever follows. -/
theorem Spells.decodeFrom_append (spells : Spells bytes code) (position : Nat)
    (rest : List UInt8) :
    decodeFrom none position (bytes ++ rest)
      = (decodeFrom none (position + bytes.length) rest).map (Char.ofNat code :: ·) := by
  cases spells with
  | @one first low => exact decodeFrom_single position rest (following?_one low)
  | @two first second low high tail =>
    show decodeFrom none position (first :: second :: rest) = _
    rw [decodeFrom_first _ _ (following?_two low high), decodeFrom_last _ _ tail.1 tail.2]
    rfl
  | @three first second third low high tail shortest whole last =>
    show decodeFrom none position (first :: second :: third :: rest) = _
    unfold IsTail at tail last
    rw [decodeFrom_first _ _ (following?_three low high),
      decodeFrom_middle _ _ (by split <;> omega) (by split <;> omega),
      decodeFrom_last _ _ last.1 last.2]
    rfl
  | @four first second third fourth low high tail shortest bounded more last =>
    show decodeFrom none position (first :: second :: third :: fourth :: rest) = _
    unfold IsTail at tail more last
    rw [decodeFrom_first _ _ (following?_four low high),
      decodeFrom_middle _ _ (by split <;> omega) (by split <;> omega),
      decodeFrom_middle _ _ more.1 more.2, decodeFrom_last _ _ last.1 last.2]
    rfl

/-- In the middle of a character nothing but a byte within the bounds is read. -/
theorem exists_inside {code left low high first start position : Nat} {text : Text}
    (decoded : decodeFrom (some ⟨code, left, low, high, first, start⟩) position bytes = .ok text) :
    ∃ next rest, bytes = next :: rest ∧ low ≤ next.toNat ∧ next.toNat ≤ high := by
  cases bytes with
  | nil => cases decoded
  | cons next rest =>
    refine ⟨next, rest, rfl, ?_⟩
    rw [decodeFrom] at decoded
    split at decoded
    · next inside => simpa using inside
    · cases decoded

/-- **What is read begins with the bytes of a code point.** -/
theorem exists_spells {next : UInt8} {rest : List UInt8} {position : Nat} {text : Text}
    (decoded : decodeFrom none position (next :: rest) = .ok text) :
    ∃ bytes code more, next :: rest = bytes ++ more ∧ Spells bytes code := by
  obtain single | ⟨low, high⟩ | ⟨low, high⟩ | ⟨low, high⟩ | refused := following?_cases next.toNat
  · exact ⟨_, _, rest, rfl, .one single⟩
  · rw [decodeFrom_first _ _ (following?_two low high)] at decoded
    obtain ⟨second, more, rfl, tail⟩ := exists_inside decoded
    exact ⟨_, _, more, rfl, .two low high tail⟩
  · rw [decodeFrom_first _ _ (following?_three low high)] at decoded
    obtain ⟨second, more, rfl, atLeast, atMost⟩ := exists_inside decoded
    rw [decodeFrom_middle _ _ atLeast atMost] at decoded
    obtain ⟨third, more, rfl, last⟩ := exists_inside decoded
    have tail : IsTail second := ⟨by split at atLeast <;> omega, by split at atMost <;> omega⟩
    exact ⟨_, _, more, rfl, .three low high tail (fun least => by rwa [if_pos least] at atLeast)
      (fun halves => by rwa [if_pos halves] at atMost) last⟩
  · rw [decodeFrom_first _ _ (following?_four low high)] at decoded
    obtain ⟨second, more, rfl, atLeast, atMost⟩ := exists_inside decoded
    rw [decodeFrom_middle _ _ atLeast atMost] at decoded
    obtain ⟨third, more, rfl, middle⟩ := exists_inside decoded
    rw [decodeFrom_middle _ _ middle.1 middle.2] at decoded
    obtain ⟨fourth, more, rfl, last⟩ := exists_inside decoded
    have tail : IsTail second := ⟨by split at atLeast <;> omega, by split at atMost <;> omega⟩
    exact ⟨_, _, more, rfl, .four low high tail (fun least => by rwa [if_pos least] at atLeast)
      (fun greatest => by rwa [if_pos greatest] at atMost) middle last⟩
  · rw [decodeFrom, refused] at decoded
    cases decoded

theorem Spells.length_pos (spells : Spells bytes code) : 0 < bytes.length := by
  cases spells <;> exact Nat.succ_pos _

/-- Bytes that are read are the encoding of what is read. -/
theorem eq_encode_of_decodeFrom {content : List UInt8} {position : Nat} {text : Text}
    (decoded : decodeFrom none position content = .ok text) : content = encode text := by
  -- Not by the recursion of the reader, which may stop in the middle of a character, but from one
  -- character to the next.
  match content with
  | [] =>
    cases decoded
    rfl
  | next :: rest =>
    obtain ⟨spelled, code, more, split, spells⟩ := exists_spells decoded
    rw [split, spells.decodeFrom_append] at decoded
    cases decodedMore : decodeFrom none (position + spelled.length) more with
    | error error =>
      rw [decodedMore] at decoded
      cases decoded
    | ok others =>
      rw [decodedMore] at decoded
      cases decoded
      have shorter : more.length < (next :: rest).length := by
        rw [split, List.length_append]
        exact Nat.lt_add_of_pos_left spells.length_pos
      rw [split, eq_encode_of_decodeFrom decodedMore, encode, encode, List.flatMap_cons,
        spells.encodeChar_eq]
termination_by content.length
decreasing_by exact shorter

theorem decodeFrom_encode (text : Text) (position : Nat) :
    decodeFrom none position (encode text) = .ok text := by
  induction text generalizing position with
  | nil => rfl
  | cons c rest ih =>
    rw [encode, List.flatMap_cons, (spells_encodeChar c).decodeFrom_append, ← encode, ih,
      Char.ofNat_toNat]
    rfl

/-- **Bytes are read as a text just where they are its encoding.** -/
theorem decode_eq_ok_iff {text : Text} : decode bytes = .ok text ↔ bytes = encode text := by
  constructor
  · exact eq_encode_of_decodeFrom
  · rintro rfl
    exact decodeFrom_encode text 0

end FeedFilter.Text
