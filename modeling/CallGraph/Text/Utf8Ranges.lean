/-!
# Ranges of characters, byte by byte

In UTF-8 a range of code points is a union of products of byte ranges: each of
the sequences that `utf8Sequences` lists gives one range for every byte, in
ascending order.
-/

namespace CallGraph.Text

/-- A range of bytes, both ends included. -/
abbrev ByteRange := Nat × Nat

/-- The sequences for the numbers from `low` to `high`, written as a first
byte, to which `base` is added, and `more` bytes of six bits. -/
def byteSequences (base : Nat) :
    (more : Nat) → (low high : Nat) → List (List ByteRange)
  | 0, low, high => [[(base + low, base + high)]]
  | more + 1, low, high =>
    let unit := 64 ^ (more + 1)
    let below := fun first low high =>
      (byteSequences 0x80 more low high).map ((base + first, base + first) :: ·)
    let start := low / unit
    let stop := high / unit
    if start = stop then below start (low % unit) (high % unit)
    else
      let opensLate := low % unit ≠ 0
      let closesEarly := high % unit ≠ unit - 1
      let firstWhole := if opensLate then start + 1 else start
      let lastWhole := if closesEarly then stop - 1 else stop
      (if opensLate then below start (low % unit) (unit - 1) else []) ++
        (if firstWhole ≤ lastWhole then
          [(base + firstWhole, base + lastWhole) ::
            List.replicate (more + 1) (0x80, 0xBF)]
        else []) ++
        (if closesEarly then below stop 0 (high % unit) else [])

/-- The code points of characters by the form of their encoding: first and last
one, what the first byte adds, and the number of bytes after it. -/
def utf8Forms : List (Nat × Nat × Nat × Nat) := [
  (0x00, 0x7F, 0x00, 0), (0x80, 0x7FF, 0xC0, 1), (0x800, 0xD7FF, 0xE0, 2),
  (0xE000, 0xFFFF, 0xE0, 2), (0x10000, 0x10FFFF, 0xF0, 3)]

/-- The sequences of byte ranges for the characters from one code point to
another. -/
def utf8Sequences (range : Nat × Nat) : List (List ByteRange) :=
  utf8Forms.flatMap fun (low, high, base, more) =>
    let first := max low range.1
    let last := min high range.2
    if first ≤ last then byteSequences base more first last else []

end CallGraph.Text
