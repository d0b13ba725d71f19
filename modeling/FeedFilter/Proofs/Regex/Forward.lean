/-
**A reading only goes forward.**

What is left after a part of an expression has been read is a suffix of what was there before it.
This holds of every reader, from a single character to a set in brackets, so all that a reading
ever looks at is in the expression.

* `Source.next_suffix`: a character that is read stands in the text, with the rest behind it.
* `readSetFrom_suffix`: brackets, by induction on their reading.
* `Reading.readEscape_suffix`, `Reading.readQuantifier_suffix`, `Reading.readFlags_suffix`: the
  readers that a step of an expression calls.

Each reader is a few calls of others with tests in between, so its lemma is that of its callees and
transitivity: the lemmas about callees are given to `grind` as they are proved.
-/

import FeedFilter.Regex.Parser

open scoped List

namespace FeedFilter.Regex

attribute [local grind →] List.IsSuffix.trans
attribute [local grind .] List.suffix_refl

namespace Source

@[grind →]
theorem suffix_of_cons {c : Char} {rest text : Text} (found : c :: rest <:+ text) :
    rest <:+ text := (List.suffix_cons c rest).trans found

@[grind →]
theorem suffix_of_rest {source : Source} {c : Char} {rest : Text}
    (found : source.rest = c :: rest) : rest <:+ source.rest := found ▸ List.suffix_cons c rest

theorem skipIgnored_suffix (inComment : Bool) (text : Text) (position : Nat) :
    (skipIgnored inComment text position).rest <:+ text := by
  fun_induction skipIgnored inComment text position <;> grind [List.suffix_cons]

theorem skip_suffix (spaced : Bool) (source : Source) :
    (source.skip spaced).rest <:+ source.rest := by
  unfold skip
  split
  · exact skipIgnored_suffix false source.rest source.position
  · exact List.suffix_refl _

/-- A character that is read stands in the text, with the rest behind it. -/
@[grind →]
theorem next_suffix {spaced : Bool} {source after : Source} {c : Char}
    (found : source.next spaced = (some c, after)) : c :: after.rest <:+ source.rest := by
  have skipped := skip_suffix spaced source
  unfold next at found
  split at found
  · cases found
  · next first rest equal =>
    cases found
    rwa [equal] at skipped

/-- Without free spacing the character is the very next one. -/
theorem rest_of_next {source after : Source} {c : Char}
    (found : source.next false = (some c, after)) : source.rest = c :: after.rest := by
  unfold next at found
  split at found
  · cases found
  · next first rest equal =>
    cases found
    exact equal

@[grind →]
theorem accept?_suffix {spaced : Bool} {source after : Source} {expected : List Char}
    (found : source.accept? spaced expected = some after) : after.rest <:+ source.rest := by
  fun_induction accept? spaced source expected <;> grind

/-- Characters that are asked for stand in the text, one after the other. -/
theorem accept?_sublist {spaced : Bool} {source after : Source} {expected : List Char}
    (found : source.accept? spaced expected = some after) :
    expected ++ after.rest <+ source.rest := by
  induction expected generalizing source with
  | nil =>
    cases found
    exact List.Sublist.refl _
  | cons c more ih =>
    unfold accept? at found
    split at found
    · next first inner read =>
      split at found
      · next same =>
        rw [List.cons_append, ← same]
        exact ((ih found).cons_cons first).trans (next_suffix read).sublist
      · cases found
    · cases found

@[grind →]
theorem expect_suffix {spaced : Bool} {source after : Source} {expected : Char}
    (found : source.expect spaced expected = .ok after) : after.rest <:+ source.rest := by
  unfold expect at found
  grind

theorem takeSpaced_sublist (condition : Char → Bool) (inComment : Bool) (text : Text)
    (position : Nat) : (takeSpaced condition inComment text position).1 <+ text := by
  fun_induction takeSpaced condition inComment text position <;> grind [List.Sublist.cons_cons]

/-- The characters that are taken stand in the text, one after the other. -/
theorem takeWhile_sublist (spaced : Bool) (source : Source) (condition : Char → Bool) :
    (source.takeWhile spaced condition).1 <+ source.rest := by
  unfold takeWhile
  split
  · exact takeSpaced_sublist condition false source.rest source.position
  · exact List.takeWhile_sublist condition

theorem all_takeSpaced (condition : Char → Bool) (inComment : Bool) (text : Text)
    (position : Nat) : (takeSpaced condition inComment text position).1.all condition = true := by
  fun_induction takeSpaced condition inComment text position <;> grind

theorem all_takeWhile (spaced : Bool) (source : Source) (condition : Char → Bool) :
    (source.takeWhile spaced condition).1.all condition = true := by
  unfold takeWhile
  split
  · exact all_takeSpaced condition false source.rest source.position
  · exact List.all_takeWhile

theorem takeSpaced_suffix (condition : Char → Bool) (inComment : Bool) (text : Text)
    (position : Nat) : (takeSpaced condition inComment text position).2.rest <:+ text := by
  fun_induction takeSpaced condition inComment text position <;> grind [List.suffix_cons]

theorem takeWhile_suffix (spaced : Bool) (source : Source) (condition : Char → Bool) :
    (source.takeWhile spaced condition).2.rest <:+ source.rest := by
  unfold takeWhile
  split
  · exact takeSpaced_suffix condition false source.rest source.position
  · exact List.dropWhile_suffix condition

theorem takeUpTo_suffix (spaced : Bool) (condition : Char → Bool) (count : Nat)
    (source : Source) : (source.takeUpTo spaced condition count).2.rest <:+ source.rest := by
  fun_induction takeUpTo spaced condition count source <;> grind

grind_pattern takeWhile_suffix => source.takeWhile spaced condition
grind_pattern takeUpTo_suffix => source.takeUpTo spaced condition count

end Source

variable {source after : Source} {manner : Manner} {members : CharSet}

/-! ### Escapes and names -/

@[grind →]
theorem readCodePoint_suffix {letter : Char} {count code : Nat}
    (found : readCodePoint manner letter count source = .ok (code, after)) :
    after.rest <:+ source.rest := by
  unfold readCodePoint at found
  grind

@[grind →]
theorem readOctal_suffix {first : Char} {code : Nat}
    (found : readOctal manner first source = .ok (code, after)) : after.rest <:+ source.rest := by
  unfold readOctal at found
  grind

theorem readPropertyName_suffix (spaced : Bool) (source : Source) :
    (readPropertyName spaced source).2.2.rest <:+ source.rest := by
  unfold readPropertyName
  grind

grind_pattern readPropertyName_suffix => readPropertyName spaced source

@[grind →]
theorem readProperty_suffix {positive : Bool}
    (found : readProperty manner positive source = .ok (some (members, after))) :
    after.rest <:+ source.rest := by
  unfold readProperty at found
  grind -splitIte

@[grind →]
theorem readCharEscape_suffix {letter : Char}
    (found : readCharEscape manner letter source = .ok (members, after)) :
    after.rest <:+ source.rest := by
  unfold readCharEscape at found
  grind

@[grind →]
theorem readName_suffix {spaced numbersToo : Bool} {name : GroupName}
    (found : readName spaced numbersToo source = .ok (name, after)) :
    after.rest <:+ source.rest := by
  unfold readName at found
  grind

/-! ### Bounds of approximate matches -/

@[grind →]
theorem readComparison?_suffix {spaced inclusive : Bool}
    (found : readComparison? spaced source = some (inclusive, after)) :
    after.rest <:+ source.rest := by
  unfold readComparison? at found
  grind

/-- A comparison begins with a sign. -/
@[grind →]
theorem less_mem_of_readComparison? {spaced inclusive : Bool}
    (found : readComparison? spaced source = some (inclusive, after)) : '<' ∈ source.rest := by
  have first : ∀ {more : List Char} {last : Source},
      source.accept? spaced ('<' :: more) = some last → '<' ∈ source.rest := fun taken =>
    (Source.accept?_sublist taken).subset List.mem_cons_self
  unfold readComparison? at found
  grind

@[grind →]
theorem readLimit_suffix {spaced : Bool} {limit : Nat}
    (found : readLimit spaced source = .ok (limit, after)) : after.rest <:+ source.rest := by
  unfold readLimit at found
  grind

@[grind →]
theorem readUpperLimit_suffix {spaced inclusive : Bool} {least limit : Nat} {given kind : Char}
    (found : readUpperLimit spaced inclusive least given source
      = .ok (some (kind, limit, after))) : after.rest <:+ source.rest := by
  unfold readUpperLimit at found
  grind

/-- What a bound with a limit on either side ends with is an upper limit, behind all the rest. -/
theorem exists_of_readBetween {spaced : Bool} {bounds : Bounds} {kind : Char} {limit : Nat}
    (found : readBetween spaced bounds source = .ok (some (kind, limit, after))) :
    ∃ inclusive least given upper, upper.rest <:+ source.rest
      ∧ readUpperLimit spaced inclusive least given upper = .ok (some (kind, limit, after)) := by
  unfold readBetween at found
  split at found
  · cases found
  next least behind limited =>
  have lower := readLimit_suffix limited
  split at found
  · cases found
  next inclusive inner compared =>
  have opened := (readComparison?_suffix compared).trans lower
  split at found
  · cases found
  next given last read =>
  have named := (Source.suffix_of_cons (Source.next_suffix read)).trans opened
  split at found
  · cases found
  next upperInclusive upper comparedToo =>
  split at found
  · exact ⟨_, _, given, upper, (readComparison?_suffix comparedToo).trans named, found⟩
  · cases found

@[grind →]
theorem readBetween_suffix {spaced : Bool} {bounds : Bounds} {kind : Char} {limit : Nat}
    (found : readBetween spaced bounds source = .ok (some (kind, limit, after))) :
    after.rest <:+ source.rest := by
  obtain ⟨inclusive, least, given, upper, ends, read⟩ := exists_of_readBetween found
  exact (readUpperLimit_suffix read).trans ends

@[grind →]
theorem readBound_suffix {spaced : Bool} {bounds : Bounds} {kind : Char} {limit : Nat}
    (found : readBound spaced bounds source = .ok (some (kind, limit, after))) :
    after.rest <:+ source.rest := by
  unfold readBound at found
  grind

@[grind →]
theorem readWeights_suffix {spaced : Bool} {fuel largest weight : Nat} {kinds : List Char}
    (found : readWeights spaced fuel kinds largest source = .ok (some (weight, after))) :
    after.rest <:+ source.rest := by
  fun_induction readWeights spaced fuel kinds largest source <;> grind

@[grind →]
theorem readSum_suffix {spaced : Bool} {bounds : Bounds} {number : Nat}
    (found : readSum spaced bounds source = .ok (some (number, after))) :
    after.rest <:+ source.rest := by
  unfold readSum at found
  grind

@[grind →]
theorem readBounds_suffix {spaced : Bool} {bounds all : Bounds} {fuel : Nat}
    (found : readBounds spaced bounds fuel source = .ok (some (all, after))) :
    after.rest <:+ source.rest := by
  fun_induction readBounds spaced bounds fuel source <;> grind

/-! ### Sets in brackets -/

@[grind →]
theorem operator?_suffix {operator : SetOperator}
    (found : operator? source = some (operator, after)) : after.rest <:+ source.rest := by
  obtain ⟨⟨spelling, named⟩, -, taken⟩ := List.exists_of_findSome?_eq_some found
  obtain ⟨last, accepted, equal⟩ := Option.map_eq_some_iff.mp taken
  cases equal
  exact Source.accept?_suffix accepted

@[grind →]
theorem readNamedClass_suffix (found : readNamedClass source = .ok (some (members, after))) :
    after.rest <:+ source.rest := by
  unfold readNamedClass at found
  grind

variable {secondVersion plainOnly : Bool}

@[grind →]
theorem readSetItem_suffix (found : readSetItem plainOnly source = .ok (members, after)) :
    after.rest <:+ source.rest := by
  unfold readSetItem at found
  grind

@[grind →]
theorem readRange_suffix {first : CharSet} {read : List CharSet}
    (found : readRange secondVersion plainOnly first source = .ok (read, after)) :
    after.rest <:+ source.rest := by
  unfold readRange at found
  grind

@[grind →]
theorem readMember_suffix
    (found : readMember secondVersion plainOnly source = .ok (members, after)) :
    after.rest <:+ source.rest := by
  unfold readMember at found
  grind

theorem readNegation_suffix (source : Source) : (readNegation source).2.rest <:+ source.rest := by
  unfold readNegation
  grind

grind_pattern readNegation_suffix => readNegation source

/-- **What follows a set** is a suffix of what followed its opening bracket, however sets nest. -/
theorem readSetFrom_suffix {fuel : Nat} {operands : Operands} {outer : List Operands}
    (found : readSetFrom secondVersion plainOnly fuel operands outer source
      = .ok (members, after)) : after.rest <:+ source.rest := by
  -- A nested set begins by dropping its bracket, which is no reader with a lemma of its own.
  fun_induction readSetFrom secondVersion plainOnly fuel operands outer source <;>
    grind [List.drop_suffix]

@[grind →]
theorem readSet_suffix (found : readSet secondVersion plainOnly source = .ok (members, after)) :
    after.rest <:+ source.rest :=
  (readSetFrom_suffix found).trans (readNegation_suffix source)

/-! ### What the steps of an expression read -/

namespace Reading

variable {reading : Reading} {node : Node Mention}

@[grind →]
theorem readBracketedName_suffix (found : reading.readBracketedName source = .ok (node, after)) :
    after.rest <:+ source.rest := by
  unfold readBracketedName at found
  grind

@[grind →]
theorem readNumbered_suffix {first : Char}
    (found : reading.readNumbered first source = .ok (node, after)) :
    after.rest <:+ source.rest := by
  unfold readNumbered at found
  grind

@[grind →]
theorem readEscape_suffix (found : reading.readEscape source = .ok (node, after)) :
    after.rest <:+ source.rest := by
  unfold readEscape at found
  grind

variable {least : Nat} {most : Option Nat}

@[grind →]
theorem readLimits_suffix {spaced : Bool}
    (found : readLimits spaced source = .ok (some (least, most, after))) :
    after.rest <:+ source.rest := by
  unfold readLimits at found
  grind

@[grind →]
theorem readCounts_suffix (found : reading.readCounts source = .ok (some (least, most, after))) :
    after.rest <:+ source.rest := by
  unfold readCounts at found
  grind

@[grind →]
theorem readQuantifier_suffix {c : Char}
    (found : reading.readQuantifier c source = .ok (some (least, most, after))) :
    after.rest <:+ source.rest := by
  unfold readQuantifier at found
  grind

@[grind →]
theorem readDifferences_suffix {fits : Bool}
    (found : reading.readDifferences source = .ok (fits, after)) : after.rest <:+ source.rest := by
  unfold readDifferences at found
  grind

@[grind →]
theorem readApproximation_suffix {fits : Bool}
    (found : reading.readApproximation source = .ok (some (fits, after))) :
    after.rest <:+ source.rest := by
  unfold readApproximation at found
  grind

theorem readGreed_suffix (spaced : Bool) (source : Source) :
    (readGreed spaced source).2.rest <:+ source.rest := by
  unfold readGreed
  grind

theorem skipComment_suffix (text : Text) (position : Nat) :
    (skipComment text position).rest <:+ text := by
  fun_induction skipComment text position <;> grind [List.suffix_cons]

theorem readFlags_suffix (spaced : Bool) (fuel : Nat) (source : Source) :
    (readFlags spaced fuel source).2.rest <:+ source.rest := by
  fun_induction readFlags spaced fuel source <;> grind

grind_pattern skipComment_suffix => skipComment text position
grind_pattern readFlags_suffix => readFlags spaced fuel source

end Reading

end FeedFilter.Regex
