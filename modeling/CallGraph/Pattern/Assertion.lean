import CallGraph.Pattern.CharSet

/-!
# Assertions

Conditions on a position of a text that depend only on the characters on both
sides of it.
-/

namespace CallGraph

/-- A condition on how words meet at a position. -/
inductive WordEdge
  | boundary
  | noBoundary
  | start
  | finish
  | startHalf
  | finishHalf
deriving DecidableEq

/-- A condition on a position of a text. -/
inductive Assertion
  | textStart
  | textEnd
  /-- The start of a line; a carriage return ends a line too if `returns`. -/
  | lineStart (returns : Bool)
  | lineEnd (returns : Bool)
  /-- An edge of a word; its characters are those of ASCII unless `unicode`. -/
  | word (edge : WordEdge) (unicode : Bool)
deriving DecidableEq

/-- The characters before and after a position; none at the ends of the text. -/
abbrev Gap := Option Char × Option Char

/-- The gaps of a text, given the character before it. -/
def gapsOf (before : Option Char) : List Char → List Gap
  | [] => [(before, none)]
  | c :: rest => (before, some c) :: gapsOf (some c) rest

/-- Whether words meet in this way, given whether they reach up to the position
from both sides. -/
def WordEdge.holds (left right : Bool) : WordEdge → Bool
  | boundary => left != right
  | noBoundary => left == right
  | start => !left && right
  | finish => left && !right
  | startHalf => !left
  | finishHalf => !right

/-- Whether an assertion is true at a gap.  A carriage return and the line feed
after it end a line together. -/
def Assertion.holds (gap : Gap) : Assertion → Bool
  | textStart => gap.1.isNone
  | textEnd => gap.2.isNone
  | lineStart returns =>
    gap.1.all (· == '\n') ||
      (returns && gap.1 == some '\r' && gap.2 != some '\n')
  | lineEnd returns =>
    if returns then
      gap.2.all (· == '\r') || (gap.2 == some '\n' && gap.1 != some '\r')
    else gap.2.all (· == '\n')
  | word edge unicode =>
    let words := if unicode then CharSet.word else CharSet.asciiWord
    edge.holds (gap.1.any words.contains) (gap.2.any words.contains)

end CallGraph
