import CallGraph.Text.Ranges
import CallGraph.Text.WordTable

/-!
# Word characters

Names with two underscores on each side, patterns with `\w`, `\d` and `\b`, all
ask whether a character may stand in a word.
-/

namespace CallGraph.Text

/-- Letters, marks, digits, connectors such as `_`, and join controls. -/
def isWord (c : Char) : Bool :=
  inRanges wordRanges c.toNat

end CallGraph.Text
