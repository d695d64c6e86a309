import CallGraph.Text.LetterTable
import CallGraph.Text.Ranges

/-!
# Letters and numbers

The characters of which names are made: letters of all scripts, and numbers
after them.
-/

namespace CallGraph.Text

/-- A letter, or a mark that works as one. -/
def isAlphabetic (c : Char) : Bool := inRanges alphabeticRanges c.toNat

/-- A decimal digit, a letter that counts, a fraction or another number. -/
def isNumeric (c : Char) : Bool := inRanges numericRanges c.toNat

end CallGraph.Text
