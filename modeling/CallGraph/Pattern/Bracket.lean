import CallGraph.Pattern.Escape

/-!
# Bracketed classes in patterns

Reads `[a-z0-9]`, `[^...]`, named classes such as `[:alpha:]`, brackets within
brackets, and the operators `&&`, `--` and `~~` between classes, which group to
the left.  What is read comes with its depth: how many brackets, lists of items
and operators stand within each other.
-/

namespace CallGraph.PatternReader

/-- A set read from a bracket, and how deep its parts nest. -/
structure DeepSet where
  set : CharSet
  depth : Nat

/-- Items of a bracket: their ranges in any order, how many there are, and the
depth of the deepest. -/
structure BracketItems where
  ranges : List (Nat × Nat) := []
  count : Nat := 0
  depth : Nat := 0

/-- Adds an item. -/
def BracketItems.add (items : BracketItems) (item : DeepSet) : BracketItems :=
  ⟨item.set.ranges ++ items.ranges, items.count + 1, max items.depth item.depth⟩

/-- The set of the items; a list of several is one level deeper than they are.
-/
def BracketItems.toSet (items : BracketItems) : DeepSet :=
  ⟨.ofRanges items.ranges,
    if 1 < items.count then items.depth + 1 else items.depth⟩

/-- A bracket that is still open. -/
structure OpenBracket where
  negated : Bool
  /-- The left operand of an operator, and the operator. -/
  pending : Option (DeepSet × (CharSet → CharSet → CharSet))
  items : BracketItems

/-- What an open bracket holds so far. -/
def OpenBracket.content (s : Switches) (b : OpenBracket) : DeepSet :=
  let right := b.items.toSet
  match b.pending with
  | none => right
  | some (left, op) =>
    ⟨op (s.close left.set) (s.close right.set),
      max left.depth right.depth + 1⟩

/-- The set of a bracket that closes. -/
def OpenBracket.finish? (s : Switches) (b : OpenBracket) : Option DeepSet :=
  let content := b.content s
  (s.signed? b.negated (s.close content.set)).map
    fun set => ⟨set, content.depth + 1⟩

/-- Adds to the items of a bracket. -/
def OpenBracket.add (b : OpenBracket) (item : DeepSet) : OpenBracket :=
  { b with items := b.items.add item }

/-- Turns what a bracket holds into the left operand of an operator. -/
def OpenBracket.operate (s : Switches) (b : OpenBracket)
    (op : CharSet → CharSet → CharSet) :
    OpenBracket :=
  { b with pending := some (b.content s, op), items := {} }

/-- The item of a character that stands for itself. -/
def charItem (c : Char) : DeepSet := ⟨.single c, 0⟩

/-- Reads the start of a bracket, after `[`: a sign of negation, hyphens, and a
closing bracket that stands for itself because it comes first. -/
def readOpening (s : Switches) (cs : List Char) : OpenBracket × List Char :=
  let (negated, cs) := match s.skip cs with
    | '^' :: rest => (true, rest)
    | cs => (false, cs)
  let (hyphens, cs) := s.span (· == '-') cs
  let b : OpenBracket :=
    ⟨negated, none, (hyphens.map charItem).foldl BracketItems.add {}⟩
  match hyphens, cs with
  | [], ']' :: rest => (b.add (charItem ']'), rest)
  | _, cs => (b, cs)

/-- Reads a named class, after `[`.  Case is settled before negation. -/
def readNamed (s : Switches) : List Char → Option (Option CharSet × List Char)
  | ':' :: cs =>
    let (negated, cs) := match cs with
      | '^' :: rest => (true, rest)
      | cs => (false, cs)
    match cs.span (· != ':') with
    | (name, ':' :: ']' :: rest) =>
      (CharSet.named? (String.ofList name)).map
        fun set => (s.signed? negated (s.close set), rest)
    | _ => none
  | _ => none

/-- An item of a bracket: a character or a class. -/
inductive Item
  | char (c : Char)
  | set (s : CharSet)

/-- Reads one item of a bracket. -/
def readItem (s : Switches) : List Char → Option (Item × List Char)
  | [] => none
  | '\\' :: rest =>
    match readEscape s rest with
    | some (.char c, rest) => (s.member? c).map fun c => (.char c, rest)
    | some (.set set, rest) => some (.set set, rest)
    | _ => none
  | c :: rest => (s.member? c).map fun c => (.char c, rest)

/-- The set of an item. -/
def Item.toSet : Item → CharSet
  | char c => .single c
  | set s => s

/-- The character that tells whether a hyphen makes a range, after the hyphen.
Blanks are passed over, and so is the sign of a comment, but not the comment.
-/
def charAfterHyphen? (s : Switches) (cs : List Char) : Option Char :=
  if s.verbose then
    let seen := (cs.dropWhile Text.isBlank)
    let seen := match seen with
      | '#' :: rest => rest.dropWhile Text.isBlank
      | seen => seen
    seen.head?.or cs.head?
  else cs.head?

/-- Reads an item or a range.  A hyphen makes a range unless a closing bracket
or another hyphen follows. -/
def readRange (s : Switches) (cs : List Char) :
    Option (CharSet × List Char) := do
  let (item, rest) ← readItem s cs
  match s.skip rest with
  | [] => none
  | '-' :: after =>
    let next := charAfterHyphen? s after
    if next = some ']' ∨ next = some '-' then return (item.toSet, '-' :: after)
    else
      let (last, more) ← readItem s (s.skip after)
      match item, last with
      | .char a, .char b =>
        if h : a ≤ b then some (.between a b h, more) else none
      | _, _ => none
  | rest => return (item.toSet, rest)

/-- Reads the rest of a bracket.  `fuel` bounds the number of items, of which
there are no more than characters. -/
def readBrackets (s : Switches) : (fuel : Nat) → OpenBracket →
    List OpenBracket → List Char → Option (DeepSet × List Char)
  | 0, _, _, _ => none
  | fuel + 1, b, outer, cs =>
    match s.skip cs with
    | [] => none
    | '[' :: rest =>
      match readNamed s rest with
      | some (none, _) => none
      | some (some set, more) => readBrackets s fuel (b.add ⟨set, 0⟩) outer more
      | none =>
        let (inner, more) := readOpening s rest
        readBrackets s fuel inner (b :: outer) more
    | ']' :: rest =>
      match b.finish? s, outer with
      | none, _ => none
      | some result, [] => some (result, rest)
      | some result, o :: outer => readBrackets s fuel (o.add result) outer rest
    | '&' :: '&' :: rest => readBrackets s fuel (b.operate s .inter) outer rest
    | '-' :: '-' :: rest => readBrackets s fuel (b.operate s .diff) outer rest
    | '~' :: '~' :: rest =>
      readBrackets s fuel (b.operate s .symmDiff) outer rest
    | cs =>
      match readRange s cs with
      | none => none
      | some (set, more) => readBrackets s fuel (b.add ⟨set, 0⟩) outer more

/-- Reads a bracketed class, after `[`. -/
def readBracket (s : Switches) (cs : List Char) :
    Option (DeepSet × List Char) :=
  let (b, rest) := readOpening s cs
  readBrackets s (rest.length + 1) b [] rest

end CallGraph.PatternReader
