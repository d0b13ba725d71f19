/-
**Text: code points, blanks and lines.**

A text is the list of its code points, so lengths and positions count code points. No text holds a
surrogate. Where a lone one is meant, by an escape in a structured value or by a number in a page,
the replacement character U+FFFD is read; that a text cannot be encoded, as one with a surrogate
could not be, does not come up.

* `isBlank`: the blanks that trimming and indentation know; `trim` takes them off both ends.
* `isLineBreak`: the characters that end a line; `lines` cuts a text at them, a carriage return
  with the line feed after it as one break.
* `lines_cons`: how a character in front of a text changes its lines.
-/

namespace FeedFilter

/-- A text is the list of its code points. -/
abbrev Text := List Char

namespace Text

/-- The code points of blanks, as ranges with both ends in them. -/
def blankRanges : List (Nat × Nat) :=
  [(0x09, 0x0D), (0x1C, 0x20), (0x85, 0x85), (0xA0, 0xA0), (0x1680, 0x1680), (0x2000, 0x200A),
   (0x2028, 0x2029), (0x202F, 0x202F), (0x205F, 0x205F), (0x3000, 0x3000)]

/-- What trimming takes away and what counts as indentation. -/
def isBlank (c : Char) : Bool :=
  blankRanges.any fun (first, last) => first ≤ c.toNat && c.toNat ≤ last

/-- The characters that end a line. -/
def lineBreaks : List Char :=
  ['\n', '\r', '\x0b', '\x0c', '\x1c', '\x1d', '\x1e', '\u0085', '\u2028', '\u2029']

/-- Whether a character ends a line. -/
def isLineBreak (c : Char) : Bool := lineBreaks.contains c

/-- Takes the blanks off the front. -/
def trimStart (text : Text) : Text := text.dropWhile isBlank

/-- Takes the blanks off the end. -/
def trimEnd (text : Text) : Text := (text.reverse.dropWhile isBlank).reverse

/-- Takes the blanks off both ends. -/
def trim (text : Text) : Text := trimEnd (trimStart text)

/-- The number of blanks in front. -/
def indent (text : Text) : Nat := (text.takeWhile isBlank).length

/-- Puts a character in front of the first of some lines, or of a new one. -/
def consLine (c : Char) : List Text → List Text
  | [] => [[c]]
  | line :: rest => (c :: line) :: rest

/-- The lines of a text. A break at the very end opens no further line. -/
def lines : Text → List Text
  | [] => []
  | '\r' :: '\n' :: rest => [] :: lines rest
  | c :: rest => if isLineBreak c then [] :: lines rest else consLine c (lines rest)

/-- A character that is no break belongs to the line that follows. -/
theorem lines_cons {c : Char} (rest : Text) (ordinary : isLineBreak c = false) :
    lines (c :: rest) = consLine c (lines rest) := by
  have other : c ≠ '\r' := by
    intro equal
    subst equal
    exact absurd ordinary (by decide)
  rw [lines.eq_def]
  split
  · simp_all
  · simp_all
  · simp_all

/-- Puts a character in front of the first of some words, or of a new one. -/
def consWord (c : Char) (joined : Bool) (words : List Text) : List Text :=
  if joined then consLine c words else [c] :: words

/-- The words of a text, which blanks keep apart. -/
def words : Text → List Text
  | [] => []
  | c :: rest =>
    if isBlank c then words rest
    else consWord c (match rest with
      | [] => false
      | next :: _ => !isBlank next) (words rest)

/-- Joins texts with a separator between them. -/
def join (separator : Text) : List Text → Text
  | [] => []
  | [last] => last
  | first :: rest => first ++ separator ++ join separator rest

/-- Whether a text stands at the front of another. -/
def startsWith (text front : Text) : Bool := front.isPrefixOf text

/-- Whether a text stands anywhere inside another. -/
def containsText (text part : Text) : Bool :=
  startsWith text part ||
    match text with
    | [] => false
    | _ :: rest => containsText rest part

/-- Replaces single characters by texts. -/
def replaceEach (replacement : Char → Option Text) (text : Text) : Text :=
  text.flatMap fun c => (replacement c).getD [c]

/-- The text as a string. -/
def toString (text : Text) : String := String.ofList text

/-- Lower-case hexadecimal digits of a number, at least as many as asked for. -/
def hexadecimal (width number : Nat) : Text :=
  let digits := Nat.toDigits 16 number
  List.replicate (width - digits.length) '0' ++ digits

/-- The value of a hexadecimal digit. -/
def hexValue? (c : Char) : Option Nat :=
  if '0' ≤ c && c ≤ '9' then some (c.toNat - '0'.toNat)
  else if 'a' ≤ c && c ≤ 'f' then some (c.toNat - 'a'.toNat + 10)
  else if 'A' ≤ c && c ≤ 'F' then some (c.toNat - 'A'.toNat + 10)
  else none

/-- The number that hexadecimal digits write; other characters count as zero. -/
def ofHexadecimal (digits : Text) : Nat :=
  digits.foldl (fun number c => number * 16 + (hexValue? c).getD 0) 0

/-- The number that decimal digits write. -/
def ofDecimal (digits : Text) : Nat :=
  digits.foldl (fun number c => number * 10 + (c.toNat - '0'.toNat)) 0

/-- The most digits with which a whole number is read. -/
def longestNumeral : Nat := 4300

/-- What is said of a whole number with more digits. -/
def tooLongNumeral (digits : Nat) : String :=
  "Exceeds the limit (" ++ Nat.repr longestNumeral
    ++ " digits) for integer string conversion: value has " ++ Nat.repr digits
    ++ " digits; use sys.set_int_max_str_digits() to increase the limit"

end Text

end FeedFilter
