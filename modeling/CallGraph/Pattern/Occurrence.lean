import CallGraph.Pattern.Reader
import CallGraph.Pattern.Size

/-!
# Patterns and where they occur

A pattern occurs in a text when some part of the text, possibly empty, matches
it.
-/

namespace CallGraph

/-- A pattern for names of files. -/
structure Pattern where
  expr : Regex CharSet Assertion

namespace Pattern

/-- The pattern that a text spells, if it is one and not too large. -/
def ofText? (text : String) : Option Pattern := do
  let form ← PatternReader.read? text
  guard form.fits
  return ⟨form.expr⟩

/-- Whether the pattern occurs in the text. -/
def occursIn (p : Pattern) (text : String) : Bool :=
  let cs := text.toList
  let around := gapsOf none cs
  let everywhere := Regex.positions (around.map fun _ => true)
  p.expr.reach cs.length (fun s => Regex.positions (cs.map s.contains))
    (fun a => Regex.positions (around.map a.holds)) everywhere != 0

end Pattern

end CallGraph
