import CallGraph.Pattern.Assertion
import CallGraph.Pattern.Switches
import CallGraph.Pattern.UnicodeClass

/-!
# Escapes in patterns

What a backslash and the characters after it stand for.
-/

namespace CallGraph.PatternReader

/-- What an escape stands for. -/
inductive Escaped
  | char (c : Char)
  | set (s : CharSet)
  | assert (a : Assertion)

/-- The characters that have a meaning of their own in patterns. -/
def isMeta (c : Char) : Bool := "\\.+*?()|[]\x7b\x7d^$#&-~".toList.contains c

/-- Whether a backslash before the character stands for the character itself:
marks of ASCII do, letters and digits do not, nor do angle brackets. -/
def isPlain (c : Char) : Bool :=
  isMeta c || (c.toNat < 0x80 && !c.isAlphanum && c != '<' && c != '>')

/-- Takes a number of characters that count. -/
def takeCounting (s : Switches) :
    Nat → List Char → Option (List Char × List Char)
  | 0, cs => some ([], cs)
  | n + 1, cs =>
    match s.skip cs with
    | [] => none
    | c :: rest =>
      (takeCounting s n rest).map fun (taken, more) => (c :: taken, more)

/-- Reads the digits of an escaped code point: a fixed number of them, or any
number between braces.  Two digits give a byte, and beyond ASCII a byte alone is
not a character. -/
def readHex (s : Switches) (width : Nat) (cs : List Char) :
    Option (Char × List Char) :=
  match s.skip cs with
  | '\x7b' :: rest =>
    match s.span (fun c => (hexDigit? c).isSome) rest with
    | (digits, '\x7d' :: more) => (hexChar? digits).map (·, more)
    | _ => none
  | cs => do
    let (digits, rest) ← takeCounting s width cs
    let c ← hexChar? digits
    guard (s.unicode || width != 2 || c.toNat ≤ 0x7F)
    return (c, rest)

/-- The edges of words that have names. -/
def namedEdge? : String → Option WordEdge
  | "start" => some .start
  | "end" => some .finish
  | "start-half" => some .startHalf
  | "end-half" => some .finishHalf
  | _ => none

/-- Reads the name in braces that may follow `\b`; without a letter after the
brace, the brace belongs to a repetition. -/
def readBoundary (s : Switches) : List Char → Option (WordEdge × List Char)
  | '\x7b' :: rest =>
    let isNamePart := fun c : Char => c.isAlpha || c == '-'
    match s.skip rest with
    | [] => none
    | c :: _ =>
      if isNamePart c then
        match s.span isNamePart rest with
        | (name, '\x7d' :: more) =>
          (namedEdge? (String.ofList name)).map (·, more)
        | _ => none
      else some (.boundary, '\x7b' :: rest)
  | cs => some (.boundary, cs)

/-- Cuts a text where a mark first stands in it. -/
def cutAt? (mark : List Char) : List Char → Option (List Char × List Char)
  | [] => none
  | c :: cs =>
    match mark.isPrefixOf? (c :: cs) with
    | some after => some ([], after)
    | none => (cutAt? mark cs).map fun (before, after) => (c :: before, after)

/-- The class that a text between braces names, and whether the text takes all
the characters outside of it. -/
def classNamed? (text : List Char) : Option (CharSet × Bool) :=
  match cutAt? ['!', '='] text with
  | some (name, value) => (CharSet.ofValue? name value).map (·, true)
  | none =>
    match cutAt? [':'] text <|> cutAt? ['='] text with
    | some (name, value) => (CharSet.ofValue? name value).map (·, false)
    | none => (CharSet.ofName? text).map (·, false)

/-- Reads a class by its name, after `\p` or `\P`: a letter, or a text between
braces.  Case is settled before negation. -/
def readClass (s : Switches) (negated : Bool) (cs : List Char) :
    Option (Escaped × List Char) := do
  guard s.unicode
  let (text, rest) ← match s.skip cs with
    | '\x7b' :: rest =>
      match s.span (· != '\x7d') rest with
      | (text, '\x7d' :: rest) => some (text, rest)
      | _ => none
    | '\\' :: _ => none
    | c :: rest => some ([c], rest)
    | [] => none
  let (named, outside) ← classNamed? text
  let set ← s.signed? (negated != outside) (s.close named)
  return (.set set, rest)

/-- Reads the rest of an escape, after the backslash.  References to groups do
not exist. -/
def readEscape (s : Switches) : List Char → Option (Escaped × List Char)
  | [] => none
  | c :: rest =>
    let shorthand := fun (wide narrow : CharSet) (negated : Bool) =>
      (s.signed? negated (if s.unicode then wide else narrow)).map fun set =>
        (Escaped.set set, rest)
    let edge := fun (e : WordEdge) (rest : List Char) =>
      (Escaped.assert (.word e s.unicode), rest)
    if isPlain c then some (.char c, rest)
    else match c with
      | 'd' => shorthand .digit .asciiDigit false
      | 'D' => shorthand .digit .asciiDigit true
      | 's' => shorthand .blank .asciiBlank false
      | 'S' => shorthand .blank .asciiBlank true
      | 'w' => shorthand .word .asciiWord false
      | 'W' => shorthand .word .asciiWord true
      | 'p' => readClass s false rest
      | 'P' => readClass s true rest
      | 'a' => some (.char '\x07', rest)
      | 'f' => some (.char '\x0c', rest)
      | 't' => some (.char '\t', rest)
      | 'n' => some (.char '\n', rest)
      | 'r' => some (.char '\r', rest)
      | 'v' => some (.char '\x0b', rest)
      | 'x' => (readHex s 2 rest).map fun (d, more) => (.char d, more)
      | 'u' => (readHex s 4 rest).map fun (d, more) => (.char d, more)
      | 'U' => (readHex s 8 rest).map fun (d, more) => (.char d, more)
      | 'A' => some (.assert .textStart, rest)
      | 'z' => some (.assert .textEnd, rest)
      | 'b' => (readBoundary s rest).map fun (e, more) => edge e more
      | 'B' => some (edge .noBoundary rest)
      | '<' => some (edge .start rest)
      | '>' => some (edge .finish rest)
      | _ => none

end CallGraph.PatternReader
