import CallGraph.Pattern.Form
import CallGraph.Text.Utf8Ranges
import Std.Data.HashSet

/-!
# Sizes of patterns

A pattern is worth as much memory as the automaton over bytes that finds it,
read in either direction, and patterns beyond a limit are refused.  The
automaton has a state for each byte of a literal, repeats what is repeated with
a count, and shares equal parts of a set; group borders take states in the
forward direction only.  Nothing is built here: sizes add up and multiply.
-/

namespace CallGraph

namespace Form

/-- The bytes of a state. -/
def stateSize : Nat := 32

/-- The bytes of a step by a range of bytes, in a state with several. -/
def stepSize : Nat := 8

/-- The bytes of a way out of a state that consumes nothing, where there are
several. -/
def choiceSize : Nat := 4

/-- The direction in which a text is read. -/
inductive Direction
  | forward
  | backward
deriving DecidableEq

/-- The sum of some sizes. -/
def total (sizes : List Nat) : Nat := sizes.foldl (· + ·) 0

/-- The number of bytes of a text. -/
def byteCount (cs : List Char) : Nat := total (cs.map Char.utf8Size)

/-- Sequences grouped by their first byte ranges. -/
def byFirst : List (List Text.ByteRange) →
    List (Text.ByteRange × List (List Text.ByteRange)) :=
  List.foldr (fun sequence groups =>
    match sequence, groups with
    | [], _ => groups
    | r :: rest, (r', tails) :: more =>
      if r = r' then (r, rest :: tails) :: more else (r, [rest]) :: groups
    | r :: rest, [] => [(r, [rest])]) []

/-- The states for sequences of byte ranges, each given by the sequences that
are left there.  `length` bounds the lengths of the sequences. -/
def statesOf : (length : Nat) → List (List Text.ByteRange) →
    List (List (List Text.ByteRange))
  | 0, _ => []
  | length + 1, sequences =>
    if sequences = [[]] then []
    else
      sequences :: (byFirst sequences).flatMap
        fun (_, tails) => statesOf length tails

/-- The number of positions from which a sequence goes its own way, after the
one before it. -/
def newSteps : List Text.ByteRange → List Text.ByteRange → Nat
  | a :: as, b :: bs => if a = b then newSteps as bs else bs.length + 1
  | _, bs => bs.length

/-- The number of different non-empty beginnings of ascending sequences. -/
def beginnings (sequences : List (List Text.ByteRange)) : Nat :=
  total (List.zipWith newSteps ([] :: sequences) sequences)

/-- The size of a set of characters. -/
def setSize (direction : Direction) (s : CharSet) : Nat :=
  if s.isAscii then 2 * stateSize + stepSize * s.ranges.length
  else
    let sequences := s.ranges.flatMap Text.utf8Sequences
    match direction with
    | .forward =>
      let states := (Std.HashSet.ofList (statesOf 5 sequences)).toList
      stateSize + total (states.map
        fun state => stateSize + stepSize * (byFirst state).length)
    | .backward =>
      2 * stateSize + choiceSize * sequences.length +
        stateSize * beginnings sequences

/-- The size of a choice between words, given as the bytes that are left of
them, in order.  Words that begin alike share states, but not across the end of
a word that comes between them.  `length` exceeds the lengths of the words. -/
def wordsSize : (length : Nat) → List (List UInt8) → Nat
  | 0, _ => 0
  | length + 1, words =>
    let longer := words.dropWhile List.isEmpty
    if longer.isEmpty then 0
    else
      let leading := if longer.length < words.length then [[]] else []
      let runs := leading ++ longer.splitOnP List.isEmpty
      let sizes := runs.map fun run =>
        let bytes := (run.filterMap List.head?).eraseDups
        let tails := bytes.map fun b => run.filterMap fun w =>
          if w.head? = some b then some w.tail else none
        let here := match bytes.length with
          | 0 => 0
          | 1 => stateSize + choiceSize
          | n => stateSize + stepSize * n + choiceSize
        here + total (tails.map (wordsSize length))
      stateSize + choiceSize * (runs.length - 1) + total sizes

/-- The characters of a form that is a literal. -/
def literal? : Form → Option (List Char)
  | literal cs => some cs
  | _ => none

/-- The size of a choice between literals. -/
def literalsSize (direction : Direction) (literals : List (List Char)) : Nat :=
  let words := literals.map fun cs => (String.ofList cs).toUTF8.toList
  let words := if direction = .forward then words else words.map List.reverse
  stateSize + wordsSize ((words.map List.length).foldl max 0 + 1) words

mutual

/-- The fewest bytes that a form can match; none if it can match nothing at
all. -/
def minLength? : Form → Option Nat
  | empty => some 0
  | literal cs => some (byteCount cs)
  | set s => s.ranges.head?.map fun (first, _) => (Char.ofNat first).utf8Size
  | assert _ => some 0
  | rep body least _ _ => (minLength? body).map (· * least)
  | group body => minLength? body
  | seq parts => (minLengths? parts).map total
  | alt branches =>
    (minLengths? branches).map fun ns => ns.tail.foldl min (ns.headD 0)

/-- The fewest bytes of each of the forms. -/
def minLengths? : List Form → Option (List Nat)
  | [] => some []
  | f :: rest =>
    match minLength? f, minLengths? rest with
    | some n, some ns => some (n :: ns)
    | _, _ => none

end

/-- The size of a repetition, given the size of its body and whether the body
needs a byte. -/
def repSize (body : Nat) (needsByte : Bool) (least : Nat)
    (most : Option Nat) : Nat :=
  let branching := stateSize + 2 * choiceSize
  match least, most with
  | 0, some 1 => branching + body + stateSize
  | 0, none =>
    if needsByte then branching + body else body + 2 * branching + stateSize
  | least, none => least * body + branching
  | least, some most =>
    let start := if least = 0 then stateSize else least * body
    if least = most then start
    else start + stateSize + (most - least) * (branching + body)

mutual

/-- The size of a form. -/
def size (direction : Direction) : Form → Nat
  | empty => stateSize
  | literal cs => stateSize * byteCount cs
  | set s => setSize direction s
  | assert _ => stateSize
  | rep body least most _ =>
    repSize (size direction body) ((minLength? body).any (0 < ·)) least most
  | group body =>
    size direction body + (if direction = .forward then 2 * stateSize else 0)
  | seq parts => total (sizes direction parts)
  | alt branches =>
    match branches.mapM literal? with
    | some literals => literalsSize direction literals
    | none =>
      total (sizes direction branches) + 2 * stateSize +
        choiceSize * branches.length

/-- The sizes of forms. -/
def sizes (direction : Direction) : List Form → List Nat
  | [] => []
  | f :: rest => size direction f :: sizes direction rest

end

mutual

/-- Whether every match begins where the text begins, in the direction of
reading. -/
def isAnchored (direction : Direction) : Form → Bool
  | assert a => a == (if direction = .forward then .textStart else .textEnd)
  | rep body least _ _ => 0 < least && isAnchored direction body
  | group body => isAnchored direction body
  | seq parts =>
    if direction = .forward then startsAnchored direction parts
    else endsAnchored direction parts
  | alt branches => areAnchored direction branches
  | _ => false

/-- Whether every match of the forms one after another begins anchored, as one
of those at the start says that take no room, or the first that does. -/
def startsAnchored (direction : Direction) : List Form → Bool
  | [] => false
  | f :: rest =>
    isAnchored direction f || (isVoid f && startsAnchored direction rest)

/-- Whether every match of the forms one after another ends anchored. -/
def endsAnchored (direction : Direction) : List Form → Bool
  | [] => false
  | f :: rest =>
    endsAnchored direction rest || (areVoid rest && isAnchored direction f)

/-- Whether every match of any of the forms is anchored. -/
def areAnchored (direction : Direction) : List Form → Bool
  | [] => true
  | f :: rest => isAnchored direction f && areAnchored direction rest

end

/-- The size of the automaton of a whole pattern: before the pattern it passes
over bytes, unless the pattern is anchored, and after it there is a last state.
-/
def automatonSize (direction : Direction) (f : Form) : Nat :=
  let lead :=
    if isAnchored direction f then stateSize
    else 3 * stateSize + stepSize + 2 * choiceSize
  lead + size direction (if direction = .forward then group f else f) +
    stateSize

/-- The largest size of an automaton: ten mebibytes. -/
def sizeLimit : Nat := 10 * 1024 * 1024

/-- Whether a pattern is small enough. -/
def fits (f : Form) : Bool :=
  automatonSize .forward f ≤ sizeLimit && automatonSize .backward f ≤ sizeLimit

end Form

end CallGraph
