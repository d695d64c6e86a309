/-!
# Natural numbers in settings

A number is written in decimal digits, with an optional plus sign, and has to
fit into 64 bits.
-/

namespace CallGraph.Text

/-- The largest number a setting may hold. -/
def numberLimit : Nat := UInt64.size - 1

/-- The value of a string of decimal digits. -/
def decimal? (digits : List Char) : Option Nat :=
  if digits.isEmpty || !digits.all (fun c => '0' ≤ c && c ≤ '9') then none
  else some (digits.foldl (fun n c => 10 * n + (c.toNat - '0'.toNat)) 0)

/-- Reads a number that fits into 64 bits. -/
def readNumber? (s : String) : Option Nat :=
  let digits := match s.toList with
    | '+' :: rest => rest
    | cs => cs
  (decimal? digits).filter (· ≤ numberLimit)

end CallGraph.Text
