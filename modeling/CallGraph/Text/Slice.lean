/-!
# Slices of a text by byte

Syntax trees locate their nodes by offsets into the UTF-8 bytes of the text.
-/

namespace CallGraph.Text

/-- The part of a text between two byte offsets; empty when the offsets are out
of range, out of order, or cut a character. -/
def slice (s : String) (start stop : Nat) : String :=
  let bytes := s.toUTF8
  if start ≤ stop ∧ stop ≤ bytes.size then
    (String.fromUTF8? (bytes.extract start stop)).getD ""
  else ""

end CallGraph.Text
