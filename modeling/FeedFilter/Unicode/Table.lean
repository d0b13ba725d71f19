/-
**Tables over the code points.**

A property of code points is written down as text, as numbers or labels between blanks, and read
once into an array that is searched by halving.

* `Runs`: consecutive runs of code points, each with a label; `Runs.label?` finds the label of one.
* `Ranges`: a set of code points as disjoint ranges; `Ranges.contains` is membership.
-/

namespace FeedFilter.Unicode

/-- The items of a table, which stand between blanks and line feeds. -/
def items (table : String) : List String :=
  ((table.map fun c => if c = '\n' then ' ' else c).splitOn " ").filter (· ≠ "")

/-- The position of the last entry that is at most `code`, between `low` and `high`. -/
def lastAtMost (starts : Array Nat) (code low high : Nat) : Nat :=
  if h : low + 1 < high then
    let middle := (low + high) / 2
    if starts.getD middle 0 ≤ code then lastAtMost starts code middle high
    else lastAtMost starts code low middle
  else low
termination_by high - low

/-- Consecutive runs of code points that begin at zero, each with its label. -/
structure Runs where
  starts : Array Nat
  labels : Array String
deriving Inhabited

namespace Runs

/-- A run as it is written: a label of letters and then a length. -/
def splitItem (item : String) : String × Nat :=
  let letters := item.toList.takeWhile (fun c => !c.isDigit)
  let digits := item.toList.dropWhile (fun c => !c.isDigit)
  (String.ofList letters, (String.ofList digits).toNat?.getD 0)

/-- Reads the runs of a table. -/
def ofTable (table : String) : Runs :=
  let read := (items table).foldl
    (fun (runs, start) item =>
      let (label, length) := splitItem item
      ((⟨runs.starts.push start, runs.labels.push label⟩ : Runs), start + length))
    ((⟨#[], #[]⟩ : Runs), 0)
  read.1

/-- The label of the run that holds a code point. -/
def label? (runs : Runs) (code : Nat) : Option String :=
  runs.labels[lastAtMost runs.starts code 0 runs.starts.size]?

end Runs

/-- A set of code points as disjoint ascending ranges with both ends in them. -/
structure Ranges where
  starts : Array Nat
  lasts : Array Nat
deriving Inhabited

namespace Ranges

/-- Reads ranges written as pairs of numbers: the gap since the range before, then the length. -/
def ofTable (table : String) : Ranges :=
  let rec read (start : Nat) : List Nat → Ranges → Ranges
    | gap :: length :: rest, ranges =>
      let first := start + gap
      read (first + length) rest ⟨ranges.starts.push first, ranges.lasts.push (first + length - 1)⟩
    | _, ranges => ranges
  read 0 ((items table).map fun item => item.toNat?.getD 0) ⟨#[], #[]⟩

/-- Ranges given as the pairs of their ends, in ascending order. -/
def ofPairs (pairs : List (Nat × Nat)) : Ranges :=
  ⟨(pairs.map Prod.fst).toArray, (pairs.map Prod.snd).toArray⟩

/-- Membership of a code point. -/
def contains (ranges : Ranges) (code : Nat) : Bool :=
  let place := lastAtMost ranges.starts code 0 ranges.starts.size
  match ranges.starts[place]?, ranges.lasts[place]? with
  | some first, some last => first ≤ code && code ≤ last
  | _, _ => false

end Ranges

end FeedFilter.Unicode
