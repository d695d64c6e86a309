import CallGraph.Text.Ranges

/-!
# Blank characters and words

A character is blank when it has the Unicode property `White_Space`.  Selectors
and settings are read after trimming blanks; declared types and names are
compared with every blank removed; a parameter keeps its words, one space
apart.
-/

namespace CallGraph.Text

/-- The code points with the Unicode property `White_Space`. -/
def blankRanges : List (Nat × Nat) := [
  (0x09, 0x0D), (0x20, 0x20), (0x85, 0x85), (0xA0, 0xA0), (0x1680, 0x1680),
  (0x2000, 0x200A), (0x2028, 0x2029), (0x202F, 0x202F), (0x205F, 0x205F),
  (0x3000, 0x3000)]

/-- Whether a character is blank. -/
def isBlank (c : Char) : Bool := inRanges blankRanges c.toNat

/-- Drops the characters that satisfy `p` from both ends. -/
def trimEnds (p : Char → Bool) (cs : List Char) : List Char :=
  ((cs.dropWhile p).reverse.dropWhile p).reverse

/-- A text without the blanks at its ends. -/
def trim (s : String) : String :=
  String.ofList (trimEnds isBlank s.toList)

/-- A text without the blanks at its end. -/
def trimRight (s : String) : String :=
  String.ofList (s.toList.reverse.dropWhile isBlank).reverse

/-- A text with every blank removed: `operator ==` becomes `operator==`. -/
def compact (s : String) : String :=
  String.ofList (s.toList.filter fun c => !isBlank c)

/-- The maximal runs of characters that are not blank. -/
def words (s : String) : List String :=
  ((s.toList.splitOnP isBlank).filter fun w => !w.isEmpty).map String.ofList

/-- The words of a text, one space apart. -/
def collapse (s : String) : String :=
  String.intercalate " " (words s)

@[simp] theorem toList_compact (s : String) :
    (compact s).toList = s.toList.filter fun c => !isBlank c := by
  simp [compact]

end CallGraph.Text
