/-
**Texts as bytes.**

* `encode`: the bytes of a text, one to four for each character.
* `decode`: the text of bytes, or the first place that is no encoded character.
* `Utf8Error.message`: the wording of such a place.
-/

import FeedFilter.Text.Basic

namespace FeedFilter.Text

/-- What is wrong with bytes that encode no text. -/
inductive Utf8Fault where
  | badStart
  | badContinuation
  | endsEarly
deriving DecidableEq, Repr

/-- A fault, the bytes it concerns from the first to the one before `stop`, and the first of them.
-/
structure Utf8Error where
  fault : Utf8Fault
  start : Nat
  stop : Nat
  byte : Nat
deriving DecidableEq, Repr

/-- The wording of a fault. -/
def Utf8Fault.message : Utf8Fault → String
  | badStart => "invalid start byte"
  | badContinuation => "invalid continuation byte"
  | endsEarly => "unexpected end of data"

/-- The wording of an error. -/
def Utf8Error.message (error : Utf8Error) : String :=
  let place :=
    if error.stop = error.start + 1 then
      "byte 0x" ++ String.ofList (hexadecimal 2 error.byte) ++ " in position "
        ++ Nat.repr error.start
    else "bytes in position " ++ Nat.repr error.start ++ "-" ++ Nat.repr (error.stop - 1)
  "'utf-8' codec can't decode " ++ place ++ ": " ++ error.fault.message

/-- The byte of a number below 256. -/
def byte (number : Nat) : UInt8 := UInt8.ofNat number

/-- The bytes of a character. -/
def encodeChar (c : Char) : List UInt8 :=
  let code := c.toNat
  if code < 0x80 then [byte code]
  else if code < 0x800 then [byte (0xC0 + code / 64), byte (0x80 + code % 64)]
  else if code < 0x10000 then
    [byte (0xE0 + code / 4096), byte (0x80 + code / 64 % 64), byte (0x80 + code % 64)]
  else
    [byte (0xF0 + code / 262144), byte (0x80 + code / 4096 % 64), byte (0x80 + code / 64 % 64),
     byte (0x80 + code % 64)]

/-- The bytes of a text. -/
def encode (text : Text) : List UInt8 := text.flatMap encodeChar

/-- How many bytes follow a first byte, with the bounds of the first of them; `none` for a byte that
begins no character. -/
def following? (first : Nat) : Option (Nat × Nat × Nat) :=
  if first < 0x80 then some (0, 0x80, 0xBF)
  else if first < 0xC2 then none
  else if first < 0xE0 then some (1, 0x80, 0xBF)
  else if first = 0xE0 then some (2, 0xA0, 0xBF)
  else if first = 0xED then some (2, 0x80, 0x9F)
  else if first < 0xF0 then some (2, 0x80, 0xBF)
  else if first = 0xF0 then some (3, 0x90, 0xBF)
  else if first < 0xF4 then some (3, 0x80, 0xBF)
  else if first = 0xF4 then some (3, 0x80, 0x8F)
  else none

/-- The part of a code point that stands in the first byte. -/
def leading (count first : Nat) : Nat :=
  match count with
  | 0 => first
  | 1 => first - 0xC0
  | 2 => first - 0xE0
  | _ => first - 0xF0

/-- A character in the middle of its bytes: what is known of its code point, how many bytes are to
come, and the bounds of the next one. -/
structure Partial where
  code : Nat
  left : Nat
  low : Nat
  high : Nat
  first : Nat
  start : Nat

/-- Decodes bytes from a position on, in the middle of a character or between two. -/
def decodeFrom : Option Partial → Nat → List UInt8 → Except Utf8Error Text
  | none, _, [] => .ok []
  | some middle, position, [] => .error ⟨.endsEarly, middle.start, position, middle.first⟩
  | none, position, next :: rest =>
    match following? next.toNat with
    | none => .error ⟨.badStart, position, position + 1, next.toNat⟩
    | some (0, _, _) => (decodeFrom none (position + 1) rest).map (Char.ofNat next.toNat :: ·)
    | some (left + 1, low, high) =>
      decodeFrom
        (some ⟨leading (left + 1) next.toNat, left + 1, low, high, next.toNat, position⟩)
        (position + 1) rest
  | some middle, position, next :: rest =>
    if middle.low ≤ next.toNat && next.toNat ≤ middle.high then
      let code := middle.code * 64 + (next.toNat - 0x80)
      if middle.left ≤ 1 then (decodeFrom none (position + 1) rest).map (Char.ofNat code :: ·)
      else
        decodeFrom
          (some { middle with code, left := middle.left - 1, low := 0x80, high := 0xBF })
          (position + 1) rest
    else .error ⟨.badContinuation, middle.start, position, middle.first⟩

/-- The text of bytes. -/
def decode (bytes : List UInt8) : Except Utf8Error Text := decodeFrom none 0 bytes

end FeedFilter.Text
