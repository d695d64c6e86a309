import CallGraph.Text.CaseTable

/-!
# Letters equal up to case

Two characters are equal up to case when they fold to the same character.
`caseVariants` lists all the characters equal to a given one, itself included.
-/

namespace CallGraph.Text

/-- The code point a character folds to. -/
def foldPoint (c : Char) : Nat :=
  (caseImage? foldRuns c.toNat).getD c.toNat

/-- The code points that fold to another one, each with that one. -/
def foldPairs : List (Nat × Nat) := foldRuns.flatMap CaseRun.pairs

/-- The characters equal to `c` up to case. -/
def caseVariants (c : Char) : List Char :=
  let target := foldPoint c
  Char.ofNat target ::
    (foldRuns.filterMap fun r => r.source? target).map Char.ofNat

end CallGraph.Text
