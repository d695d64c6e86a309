import CallGraph.Pattern.Bracket
import CallGraph.Pattern.Form
import CallGraph.Text.Letter
import CallGraph.Text.Number

/-!
# Reading patterns

Turns the text of a pattern into its form, and measures how deep its parts
nest.  Patterns do not look around and do not refer back to groups: texts that
ask for it are no patterns.
-/

namespace CallGraph.PatternReader

/-- A part of a pattern that has been read, and how deep its own parts nest.  A
place where switches are set is a part without a form, which cannot be
repeated. -/
structure Piece where
  form : Option Form
  depth : Nat

/-- A group that is still open: the switches outside it, what was read before
it, latest first, and whether it counts as a group of its own. -/
structure OpenGroup where
  switches : Switches
  branches : List Piece
  pieces : List Piece
  counts : Bool

/-- The depth of several parts together: one more than the deepest, but a
single part is not nested. -/
def jointDepth (pieces : List Piece) : Nat :=
  match pieces with
  | [p] => p.depth
  | [] => 0
  | ps => (ps.map Piece.depth).foldl max 0 + 1

/-- The alternative made of parts, latest first. -/
def branchOf (pieces : List Piece) : Piece :=
  ⟨some (.ofSeq (pieces.reverse.filterMap Piece.form)), jointDepth pieces⟩

/-- The choice between the finished alternatives, latest first, and the one
made of the parts. -/
def choiceOf (branches pieces : List Piece) : Piece :=
  match branches with
  | [] => branchOf pieces
  | _ =>
    let all := (branchOf pieces :: branches).reverse
    ⟨some (.ofAlt (all.filterMap Piece.form)), jointDepth all⟩

/-- The group around the alternatives. -/
def groupOf (counts : Bool) (branches pieces : List Piece) : Piece :=
  let inner := choiceOf branches pieces
  ⟨if counts then inner.form.map .group else inner.form, inner.depth + 1⟩

/-- The part for one character. -/
def charPiece (s : Switches) (c : Char) : Piece :=
  let form :=
    if !s.ignoreCase then .literal [c]
    else if s.unicode then Form.ofSet (.ofChars (Text.caseVariants c))
    else Form.ofSet (CharSet.single c).anyAsciiCase
  ⟨some form, 0⟩

/-- The part for an escape. -/
def escapedPiece (s : Switches) : Escaped → Piece
  | .char c => charPiece s c
  | .set set => ⟨some (.ofSet set), 0⟩
  | .assert a => ⟨some (.assert a), 0⟩

/-- The part for a full stop, which needs whole characters. -/
def dotPiece? (s : Switches) : Option Piece :=
  if s.unicode then
    let ends :=
      if s.dotNewline then [] else if s.returns then ['\n', '\r'] else ['\n']
    some ⟨some (.set (CharSet.ofChars ends).compl), 0⟩
  else none

/-- Reads switches up to a colon or a closing parenthesis, which comes with the
result.  `value` tells whether switches are set or cleared, `seen` holds the
letters already read, and `dangling` tells whether the last character read was
the sign of negation. -/
def readSwitches (s : Switches) (value : Bool) (seen : List Char)
    (dangling : Bool) :
    List Char → Option (Switches × Bool × Char × List Char)
  | [] => none
  | c :: rest =>
    if c = ':' ∨ c = ')' then
      if dangling then none else some (s, seen.isEmpty, c, rest)
    else if c = '-' then
      if value then readSwitches s false ('-' :: seen) true rest else none
    else if c ∈ seen then none
    else match s.set value c with
      | none => none
      | some s => readSwitches s value (c :: seen) false rest

/-- Whether the name of a group may have the character: a letter or an
underscore first, then also numbers, full stops and brackets. -/
def isNameChar (first : Bool) (c : Char) : Bool :=
  c == '_' || Text.isAlphabetic c ||
    (!first && (c == '.' || c == '[' || c == ']' || Text.isNumeric c))

/-- Reads the name of a group up to the closing angle bracket. -/
def readGroupName (cs : List Char) : Option (List Char × List Char) :=
  match cs.span (· != '>') with
  | (c :: name, _ :: rest) =>
    if isNameChar true c && name.all (isNameChar false) then
      some (c :: name, rest)
    else none
  | _ => none

/-- What an opening parenthesis begins. -/
inductive Opening
  /-- A group, which counts as one of its own unless it only holds switches. -/
  | group (switches : Switches) (counts : Bool) (name : Option (List Char))
      (rest : List Char)
  | set (switches : Switches) (rest : List Char)

/-- Reads what follows an opening parenthesis. -/
def readGroupOpening (s : Switches) (cs : List Char) : Option Opening :=
  match s.skip cs with
  | '?' :: '=' :: _ | '?' :: '!' :: _ | '?' :: '<' :: '=' :: _
  | '?' :: '<' :: '!' :: _ => none
  | '?' :: 'P' :: '<' :: rest | '?' :: '<' :: rest =>
    (readGroupName rest).map fun (name, rest) => .group s true (some name) rest
  | '?' :: rest =>
    match readSwitches s true [] false rest with
    | none => none
    | some (s, unset, stop, rest) =>
      if stop = ':' then some (.group s false none rest)
      else if unset then none
      else some (.set s rest)
  | rest => some (.group s true none rest)

/-- The largest count in a repetition. -/
def countLimit : Nat := UInt32.size - 1

/-- Reads a count, blanks around it aside. -/
def readCount (s : Switches) (cs : List Char) : Option (Nat × List Char) := do
  let (digits, rest) :=
    s.span (fun c => '0' ≤ c && c ≤ '9') (cs.dropWhile Text.isBlank)
  let n ← Text.decimal? digits
  guard (n ≤ countLimit)
  return (n, rest.dropWhile Text.isBlank)

/-- Reads the counts of a repetition, after the opening brace. -/
def readCounts (s : Switches) (cs : List Char) :
    Option (Nat × Option Nat × List Char) := do
  let (least, rest) ← readCount s (s.skip cs)
  match rest with
  | '\x7d' :: more => return (least, some least, more)
  | ',' :: rest =>
    match s.skip rest with
    | '\x7d' :: more => return (least, none, more)
    | rest =>
      let (most, rest) ← readCount s rest
      match rest with
      | '\x7d' :: more =>
        if least ≤ most then return (least, some most, more) else none
      | _ => none
  | _ => none

/-- Reads the mark that makes a repetition take little, or much if it would
take little without: the rest and whether the repetition is greedy. -/
def readGreed (s : Switches) : List Char → Bool × List Char
  | '?' :: rest => (s.swapGreed, rest)
  | rest => (!s.swapGreed, rest)

/-- Repeats the latest part; there has to be one, and it has to have a form. -/
def repeatLast (least : Nat) (most : Option Nat) (greedy : Bool) :
    List Piece → Option (List Piece)
  | ⟨some form, depth⟩ :: pieces =>
    some (⟨some (.ofRep form least most greedy), depth + 1⟩ :: pieces)
  | _ => none

/-- Reads the rest of a pattern.  `fuel` bounds the number of parts, of which
there are no more than characters. -/
def readPieces : (fuel : Nat) → Switches → (branches pieces : List Piece) →
    List OpenGroup → (names : List (List Char)) → List Char → Option Piece
  | 0, _, _, _, _, _, _ => none
  | fuel + 1, s, branches, pieces, outer, names, cs =>
    let again := fun (piece : Piece) rest =>
      readPieces fuel s branches (piece :: pieces) outer names rest
    let repeated := fun (least : Nat) (most : Option Nat) (rest : List Char) =>
      let (greedy, rest) := readGreed s rest
      match repeatLast least most greedy pieces with
      | none => none
      | some pieces => readPieces fuel s branches pieces outer names rest
    match s.skip cs with
    | [] => if outer.isEmpty then some (choiceOf branches pieces) else none
    | '(' :: rest =>
      match readGroupOpening s rest with
      | none => none
      | some (.set s rest) =>
        readPieces fuel s branches (⟨none, 0⟩ :: pieces) outer names rest
      | some (.group inner counts name rest) =>
        if name.any (· ∈ names) then none
        else
          readPieces fuel inner [] [] (⟨s, branches, pieces, counts⟩ :: outer)
            (name.toList ++ names) rest
    | ')' :: rest =>
      match outer with
      | [] => none
      | o :: outer =>
        readPieces fuel o.switches o.branches
          (groupOf o.counts branches pieces :: o.pieces) outer names rest
    | '|' :: rest =>
      readPieces fuel s (branchOf pieces :: branches) [] outer names rest
    | '[' :: rest =>
      match readBracket s rest with
      | none => none
      | some (deep, rest) => again ⟨some (.ofSet deep.set), deep.depth⟩ rest
    | '?' :: rest => repeated 0 (some 1) rest
    | '*' :: rest => repeated 0 none rest
    | '+' :: rest => repeated 1 none rest
    | '\x7b' :: rest =>
      match readCounts s rest with
      | none => none
      | some (least, most, rest) => repeated least most (s.skip rest)
    | '\\' :: rest =>
      match readEscape s rest with
      | none => none
      | some (e, rest) => again (escapedPiece s e) rest
    | '.' :: rest =>
      match dotPiece? s with
      | none => none
      | some piece => again piece rest
    | '^' :: rest =>
      again ⟨some (.assert
        (if s.multiLine then .lineStart s.returns else .textStart)), 0⟩ rest
    | '$' :: rest =>
      again ⟨some (.assert
        (if s.multiLine then .lineEnd s.returns else .textEnd)), 0⟩ rest
    | c :: rest => again (charPiece s c) rest

/-- How deep the parts of a pattern nest at most. -/
def depthLimit : Nat := 250

/-- Reads a pattern; none when the text is not one, or nests too deep. -/
def read? (text : String) : Option Form := do
  let piece ← readPieces (text.toList.length + 1) {} [] [] [] [] text.toList
  guard (piece.depth ≤ depthLimit)
  piece.form

end CallGraph.PatternReader
