import CallGraph.Pattern.CharSet

/-!
# Switches of patterns

What a pattern can turn on and off for the part that follows, and what depends
on it wherever patterns are read.
-/

namespace CallGraph.PatternReader

/-- The switches that a pattern can set. -/
structure Switches where
  ignoreCase : Bool := false
  multiLine : Bool := false
  dotNewline : Bool := false
  /-- A carriage return ends a line too. -/
  returns : Bool := false
  /-- Repetitions take little unless marked. -/
  swapGreed : Bool := false
  /-- Classes and letter case go beyond ASCII. -/
  unicode : Bool := true
  /-- Blanks and comments do not count. -/
  verbose : Bool := false

namespace Switches

/-- Sets or clears the switch of a letter. -/
def set (s : Switches) (value : Bool) : Char → Option Switches
  | 'i' => some { s with ignoreCase := value }
  | 'm' => some { s with multiLine := value }
  | 's' => some { s with dotNewline := value }
  | 'R' => some { s with returns := value }
  | 'U' => some { s with swapGreed := value }
  | 'u' => some { s with unicode := value }
  | 'x' => some { s with verbose := value }
  | _ => none

/-- Takes characters as long as they satisfy `p`, and passes over what does not
count before them, between them and after them.  `comment` tells whether the
text begins inside a comment. -/
def spanFrom (s : Switches) (p : Char → Bool) : (comment : Bool) → List Char →
    List Char × List Char
  | _, [] => ([], [])
  | true, c :: rest => s.spanFrom p (c != '\n') rest
  | false, c :: rest =>
    if s.verbose && Text.isBlank c then s.spanFrom p false rest
    else if s.verbose && c == '#' then s.spanFrom p true rest
    else if p c then
      let (taken, more) := s.spanFrom p false rest
      (c :: taken, more)
    else ([], c :: rest)

/-- Takes characters as long as they satisfy `p`, and passes over what does not
count. -/
def span (s : Switches) (p : Char → Bool) (cs : List Char) :
    List Char × List Char :=
  s.spanFrom p false cs

/-- Passes over what does not count. -/
def skip (s : Switches) (cs : List Char) : List Char :=
  (s.span (fun _ => false) cs).2

/-- The set up to case, if case is ignored. -/
def close (s : Switches) (set : CharSet) : CharSet :=
  if s.ignoreCase then
    if s.unicode then set.anyCase else set.anyAsciiCase
  else set

/-- The set, or its complement if `negated`, which has no meaning for bytes. -/
def signed? (s : Switches) (negated : Bool) (set : CharSet) : Option CharSet :=
  if negated then if s.unicode then some set.compl else none else some set

/-- The set of one character that stands in a bracket; only ASCII is a byte of
its own. -/
def member? (s : Switches) (c : Char) : Option Char :=
  if s.unicode || c.toNat ≤ 0x7F then some c else none

end Switches

end CallGraph.PatternReader
