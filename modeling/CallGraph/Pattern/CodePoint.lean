import CallGraph.Pattern.CharSet

/-!
# Code points written in digits

Code points are written in hexadecimal digits, both in patterns and in the
tables of the character database that classes of patterns come from.
-/

namespace CallGraph

namespace PatternReader

/-- The value of a hexadecimal digit. -/
def hexDigit? (c : Char) : Option Nat :=
  if '0' ≤ c && c ≤ '9' then some (c.toNat - '0'.toNat)
  else if 'a' ≤ c && c ≤ 'f' then some (c.toNat - 'a'.toNat + 10)
  else if 'A' ≤ c && c ≤ 'F' then some (c.toNat - 'A'.toNat + 10)
  else none

/-- The number that hexadecimal digits write. -/
def hexNat? (digits : List Char) : Option Nat := do
  guard (!digits.isEmpty)
  let values ← digits.mapM hexDigit?
  return values.foldl (fun n d => 16 * n + d) 0

/-- The character whose code point is written in hexadecimal digits. -/
def hexChar? (digits : List Char) : Option Char := do
  let n ← hexNat? digits
  guard (n.isValidChar)
  return Char.ofNat n

end PatternReader

namespace CharSet

/-- The ranges of an entry of a table.  `41` is one code point, `41-5A` a range
of them, and `100-12E/2` every second one of a range. -/
def entryRanges (entry : List Char) : List (Nat × Nat) :=
  match (entry.splitOnP fun c => c == '-' || c == '/').filterMap
      PatternReader.hexNat? with
  | [point] => [(point, point)]
  | [first, last] => [(first, last)]
  | [first, last, step] =>
    (List.range ((last - first) / step + 1)).map fun k =>
      (first + k * step, first + k * step)
  | _ => []

/-- The ranges of a table, whose entries stand apart by blanks and ends of
lines. -/
def tableRanges (points : String) : List (Nat × Nat) :=
  (points.toList.splitOnP fun c => c == ' ' || c == '\n').flatMap entryRanges

/-- The characters of a table. -/
def ofTable (points : String) : CharSet := ofRanges (tableRanges points)

end CharSet

end CallGraph
