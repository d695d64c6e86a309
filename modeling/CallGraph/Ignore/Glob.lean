import CallGraph.Pattern.Regex

/-!
# Globs

Wildcards for paths, as ignore files use them.  A path is matched byte by byte.
`*` and `?` stay within a component; `**` as a whole component crosses
components; `{a,b}` offers alternatives.  How deep the parts of a glob nest is
measured along the way, because there is a limit to it.
-/

namespace CallGraph

/-- A set of bytes. -/
structure ByteClass where
  negated : Bool
  ranges : List (UInt8 × UInt8)

/-- Whether a byte belongs to a set. -/
def ByteClass.contains (c : ByteClass) (b : UInt8) : Bool :=
  c.ranges.any (fun (first, last) => first ≤ b && b ≤ last) != c.negated

namespace Glob

/-- The expressions that globs stand for. -/
abbrev Expr := Regex ByteClass Empty

/-- Any byte. -/
def anyByte : Expr := .symbol ⟨true, []⟩

/-- Any byte but a slash. -/
def innerByte : Expr := .symbol ⟨true, [(0x2F, 0x2F)]⟩

/-- A given byte. -/
def byte (b : UInt8) : Expr := .symbol ⟨false, [(b, b)]⟩

/-- A slash. -/
def slash : Expr := byte 0x2F

/-- Any number of repetitions. -/
def many (e : Expr) : Expr := .rep e 0 none

/-- The bytes of a character. -/
def bytesOf (c : Char) : List UInt8 := (String.singleton c).toUTF8.toList

/-- A piece of a glob. -/
inductive Token
  | literal (c : Char)
  /-- `?` -/
  | one
  /-- `*` -/
  | inner
  /-- `**` in front, with the slash after it -/
  | recursiveFront
  /-- `**` at the end, with the slash before it -/
  | recursiveEnd
  /-- `**` in between, with the slashes on both sides -/
  | recursiveBetween
  | cls (c : ByteClass)
  /-- Alternatives, and how deep they nest; none when all of them are empty. -/
  | group (body : Option (Expr × Nat))

/-- The expression for a piece. -/
def Token.expr : Token → Expr
  | literal c => Regex.seqAll ((bytesOf c).map byte)
  | one => innerByte
  | inner => many innerByte
  | recursiveFront => .alt (.rep slash 0 (some 1)) (.seq (many anyByte) slash)
  | recursiveEnd => .seq slash (many anyByte)
  | recursiveBetween => .alt slash (Regex.seqAll [slash, many anyByte, slash])
  | cls c => .symbol c
  | group body => body.elim .empty Prod.fst

/-- How many parts a piece adds to a sequence. -/
def Token.width : Token → Nat
  | literal c => c.utf8Size
  | recursiveEnd => 2
  | group none => 0
  | _ => 1

/-- How deep the parts of a piece nest: classes, repetitions, sequences, and
alternatives, which count twice when there are several. -/
def Token.depth : Token → Nat
  | literal _ => 0
  | one => 1
  | inner => 2
  | recursiveFront => 4
  | recursiveEnd => 1
  | recursiveBetween => 4
  | cls c => if 1 < c.ranges.length then 2 else 1
  | group body => body.elim 0 Prod.snd

/-- How deep pieces one after another nest; a single part is not a sequence. -/
def seqDepth (tokens : List Token) : Nat :=
  let width := (tokens.map Token.width).foldl (· + ·) 0
  (tokens.map Token.depth).foldl max 0 + if 1 < width then 1 else 0

/-- The expression for a whole glob; `**` alone is everything. -/
def wholeExpr : List Token → Expr
  | [.recursiveFront] => many anyByte
  | tokens => Regex.seqAll (tokens.map Token.expr)

/-- Whether nothing is left of pieces. -/
def isVoid (tokens : List Token) : Bool := tokens.all fun t => t.width == 0

/-- The piece for the alternatives between braces; empty ones do not count. -/
def groupOf (branches : List (List Token)) : Token :=
  match branches.filter fun b => !isVoid b with
  | [] => .group none
  | first :: rest =>
    let exprOf := fun b : List Token => Regex.seqAll (b.map Token.expr)
    let depth := (rest.map seqDepth).foldl max (seqDepth first)
    .group (some (Regex.altAll (exprOf first) (rest.map exprOf),
      if rest.isEmpty then depth + 1 else depth + 2))

/-- The byte ranges of a range of characters: the bytes of both ends, one after
another, joined in the middle. -/
def rangeBytes (first last : Char) : List (UInt8 × UInt8) :=
  let low := bytesOf first
  let high := bytesOf last
  if first = last then low.map fun b => (b, b)
  else
    low.dropLast.map (fun b => (b, b)) ++ [(low.getLastD 0, high.headD 0)] ++
      high.tail.map fun b => (b, b)

/-- What reading a class comes to. -/
inductive ClassReading
  /-- The ranges of the class, and what follows its closing bracket. -/
  | closed (ranges : List (Char × Char)) (rest : List Char)
  /-- There is no closing bracket. -/
  | unclosed
  /-- The end of a range comes before its start. -/
  | reversed

/-- Reads the ranges of a class up to its closing bracket.  `first` tells
whether nothing has been read yet, `inRange` whether a hyphen waits for the end
of a range; `done` holds the ranges read, latest first. -/
def readClass (first inRange : Bool) (done : List (Char × Char)) :
    List Char → ClassReading
  | [] => .unclosed
  | c :: rest =>
    if c = ']' ∧ ¬ first then
      .closed (if inRange then ('-', '-') :: done else done).reverse rest
    else if c = '-' ∧ ¬ first ∧ ¬ inRange then readClass false true done rest
    else if inRange then
      match done with
      | (low, _) :: more =>
        if low ≤ c then readClass false false ((low, c) :: more) rest
        else .reversed
      | [] => .reversed
    else readClass false false ((c, c) :: done) rest

/-- Reads a class, after the opening bracket, which stands for itself when
nothing closes it: the piece, whether the bracket was closed, and the rest. -/
def readBracket (cs : List Char) : Option (Token × Bool × List Char) :=
  let (negated, body) := match cs with
    | '!' :: rest | '^' :: rest => (true, rest)
    | cs => (false, cs)
  match readClass true false [] body with
  | .closed ranges rest =>
    some (.cls ⟨negated,
      ranges.flatMap fun (low, high) => rangeBytes low high⟩, true, rest)
  | .unclosed => some (.literal '[', false, cs)
  | .reversed => none

/-- Alternatives that are still open: what came before them, and those
finished, latest first. -/
structure OpenGroup where
  before : List Token
  branches : List (List Token)

/-- Reads `**`, after both stars: the pieces so far (latest first) with it, and
the rest.  `prev` is the character before the stars. -/
def readDoubleStar (prev : Option Char) (tokens : List Token)
    (inGroup : Bool) (cs : List Char) :
    List Token × List Char :=
  let plain := (Token.inner :: .inner :: tokens, cs)
  let merged := fun (wide : Token) (rest : List Char) =>
    match tokens with
    | .recursiveFront :: more => (Token.recursiveFront :: more, rest)
    | .recursiveEnd :: more => (Token.recursiveEnd :: more, rest)
    | _ :: more => (wide :: more, rest)
    | [] => (wide :: tokens, rest)
  if tokens.isEmpty then
    match cs with
    | [] => ([.recursiveFront], [])
    | '/' :: rest => ([.recursiveFront], rest)
    | _ => plain
  else if prev = some '/' ∨
      (inGroup ∧ (prev = some ',' ∨ prev = some '\x7b')) then
    match cs with
    | [] => merged .recursiveEnd []
    | '/' :: rest => merged .recursiveBetween rest
    | c :: _ =>
      if inGroup ∧ (c = ',' ∨ c = '\x7d') then merged .recursiveEnd cs
      else plain
  else plain

/-- Reads the rest of a glob into pieces, latest first.  `fuel` bounds the
number of pieces, of which there are no more than characters; `prev` is the
last character read; `classes` tells whether brackets still make classes, which
they no longer do after one that nothing closes. -/
def readTokens : (fuel : Nat) → (prev : Option Char) → (classes : Bool) →
    List Token → List OpenGroup → List Char → Option (List Token)
  | 0, _, _, _, _, _ => none
  | fuel + 1, prev, classes, tokens, outer, cs =>
    match cs with
    | [] => if outer.isEmpty then some tokens.reverse else none
    | '?' :: rest =>
      readTokens fuel (some '?') classes (.one :: tokens) outer rest
    | '*' :: '*' :: rest =>
      let (tokens, more) := readDoubleStar prev tokens (!outer.isEmpty) rest
      let last := if more.length < rest.length then '/' else '*'
      readTokens fuel (some last) classes tokens outer more
    | '*' :: rest =>
      readTokens fuel (some '*') classes (.inner :: tokens) outer rest
    | '[' :: rest =>
      if classes then
        match readBracket rest with
        | none => none
        | some (token, closed, rest) =>
          readTokens fuel (some ']') closed (token :: tokens) outer rest
      else
        readTokens fuel (some '[') classes (.literal '[' :: tokens) outer rest
    | '\x7b' :: rest =>
      readTokens fuel (some '\x7b') classes [] (⟨tokens, []⟩ :: outer) rest
    | '\x7d' :: rest =>
      match outer with
      | [] => none
      | o :: outer =>
        let branches := (tokens :: o.branches).reverse.map List.reverse
        readTokens fuel (some '\x7d') classes (groupOf branches :: o.before)
          outer rest
    | ',' :: rest =>
      match outer with
      | [] =>
        readTokens fuel (some ',') classes (.literal ',' :: tokens) [] rest
      | o :: outer =>
        readTokens fuel (some ',') classes []
          (⟨o.before, tokens :: o.branches⟩ :: outer) rest
    | '\\' :: rest =>
      match rest with
      | [] => none
      | c :: rest =>
        readTokens fuel (some c) classes (.literal c :: tokens) outer rest
    | c :: rest =>
      readTokens fuel (some c) classes (.literal c :: tokens) outer rest

end Glob

/-- A wildcard for paths. -/
structure Glob where
  expr : Glob.Expr
  /-- How deep its parts nest. -/
  depth : Nat

/-- The glob that a text spells, if it is one. -/
def Glob.ofText? (text : String) : Option Glob :=
  (readTokens (text.toList.length + 1) none true [] [] text.toList).map
    fun tokens =>
      ⟨wholeExpr tokens, (tokens.map Token.depth).foldl max 0 + 1⟩

/-- How deep the parts of a glob nest at most. -/
def Glob.depthLimit : Nat := 250

/-- Whether the glob matches the whole of a path. -/
def Glob.matchesPath (g : Glob) (path : String) : Bool :=
  let bytes := path.toUTF8.toList
  (g.expr.reach bytes.length
    (fun c => Regex.positions (bytes.map c.contains)) (fun e => nomatch e)
    1).testBit bytes.length

end CallGraph
