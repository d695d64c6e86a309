/-!
# Tables of code points

A character property is given as an ascending list of closed ranges of code
points, a case mapping as an ascending list of runs: evenly spaced code points
that all move by the same distance.
-/

namespace CallGraph.Text

/-- Whether a code point lies in one of the ranges, which are in ascending
order. -/
def inRanges : List (Nat × Nat) → Nat → Bool
  | [], _ => false
  | (lo, hi) :: rest, n => if n < lo then false else n ≤ hi || inRanges rest n

/-- The code points `first`, `first + step`, ..., `last`, which map to
`target`, `target + step`, and so on. -/
structure CaseRun where
  first : Nat
  last : Nat
  step : Nat
  target : Nat

/-- What a code point of the run maps to. -/
def CaseRun.image? (r : CaseRun) (n : Nat) : Option Nat :=
  if r.first ≤ n && n ≤ r.last && (n - r.first) % r.step == 0 then
    some (r.target + (n - r.first))
  else none

/-- The code points of the run, each with what it maps to. -/
def CaseRun.pairs (r : CaseRun) : List (Nat × Nat) :=
  (List.range ((r.last - r.first) / r.step + 1)).map fun k =>
    (r.first + k * r.step, r.target + k * r.step)

/-- Which code point of the run maps to `m`. -/
def CaseRun.source? (r : CaseRun) (m : Nat) : Option Nat :=
  if r.target ≤ m && m ≤ r.target + (r.last - r.first) &&
      (m - r.target) % r.step == 0 then
    some (r.first + (m - r.target))
  else none

/-- What a code point maps to under a table of runs in ascending order. -/
def caseImage? : List CaseRun → Nat → Option Nat
  | [], _ => none
  | r :: rest, n =>
    if n < r.first then none
    else match r.image? n with
      | some m => some m
      | none => caseImage? rest n

end CallGraph.Text
