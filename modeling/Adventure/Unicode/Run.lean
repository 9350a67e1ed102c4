/-!
# Runs of code points

Character properties are tables of runs: stretches of consecutive code points that share a value.
A short table is a list of bounds and is searched from the front; a long one is an array of runs
in increasing order and is searched by halving. Long tables are written as text, one entry
`first-last=value` or `only=value` per word, in hexadecimal.
-/

namespace Adventure.Unicode

/-- Whether the code point of `c` lies in one of the runs `(first, last)`. -/
def inRuns (runs : List (Nat × Nat)) (c : Char) : Bool :=
  runs.any fun (first, last) => decide (first ≤ c.toNat) && decide (c.toNat ≤ last)

theorem inRuns_iff {runs : List (Nat × Nat)} {c : Char} :
    inRuns runs c = true ↔ ∃ r ∈ runs, r.1 ≤ c.toNat ∧ c.toNat ≤ r.2 := by
  simp [inRuns]

/-- Consecutive code points that share a value. -/
structure Run (α : Type) where
  first : Nat
  last : Nat
  value : α

namespace Run

variable {α : Type}

/-- The run that covers `n` among the runs at `lo`, …, `hi - 1` of an increasing array. -/
def findBetween? (runs : Array (Run α)) (n lo hi : Nat) : Option (Run α) :=
  if _h : lo < hi then
    let mid := (lo + hi) / 2
    match runs[mid]? with
    | none => none
    | some run =>
      if n < run.first then findBetween? runs n lo mid
      else if run.last < n then findBetween? runs n (mid + 1) hi
      else some run
  else none
termination_by hi - lo
decreasing_by all_goals omega

/-- The run that covers the code point `n` in an increasing array of disjoint runs. -/
def find? (runs : Array (Run α)) (n : Nat) : Option (Run α) :=
  findBetween? runs n 0 runs.size

/-- The value of a hexadecimal digit. -/
def hexDigit? (c : Char) : Option Nat :=
  if '0' ≤ c ∧ c ≤ '9' then some (c.toNat - 48)
  else if 'A' ≤ c ∧ c ≤ 'F' then some (c.toNat - 55)
  else if 'a' ≤ c ∧ c ≤ 'f' then some (c.toNat - 87)
  else none

/-- The number that hexadecimal digits write; characters that are no digits do not count. -/
def hexValue (digits : List Char) : Nat :=
  (digits.filterMap hexDigit?).foldl (fun n d => 16 * n + d) 0

/-- The entry `first-last=value` or `only=value`, with its value read by `value?`. -/
def ofWord? (value? : List Char → Option α) (entry : List Char) : Option (Run α) :=
  let bounds := entry.takeWhile (· != '=')
  let first := bounds.takeWhile (· != '-')
  let last := (bounds.dropWhile (· != '-')).drop 1
  (value? ((entry.dropWhile (· != '=')).drop 1)).map fun v =>
    ⟨hexValue first, hexValue (if last.isEmpty then first else last), v⟩

/-- The words of a text, which blanks and line ends part. -/
def entries (text : List Char) : List (List Char) :=
  (text.splitBy fun a b => a.isWhitespace == b.isWhitespace).filter fun word =>
    !word.all Char.isWhitespace

/-- A table from its text. -/
def table (value? : List Char → Option α) (text : String) : Array (Run α) :=
  ((entries text.toList).filterMap (ofWord? value?)).toArray

end Run

end Adventure.Unicode
