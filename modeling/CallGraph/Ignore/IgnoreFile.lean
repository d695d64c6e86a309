import CallGraph.Ignore.Glob
import CallGraph.Text.Blank

/-!
# Ignore files

An ignore file holds a rule on each line.  A rule with a slash inside is about
paths from the directory of the file; any other is about names at any depth
below it.  The last rule that fits a path decides: the path is ignored, or kept
when the rule begins with an exclamation mark.
-/

namespace CallGraph

/-- One rule of an ignore file. -/
structure IgnoreRule where
  glob : Glob
  /-- Whether what the rule fits is kept rather than ignored. -/
  keeps : Bool
  onlyDirectories : Bool

/-- The rules of an ignore file, in order. -/
abbrev IgnoreFile := List IgnoreRule

namespace IgnoreRule

/-- A line without the blanks at its end, unless the last of them is escaped. -/
def strippedLine (line : String) : List Char :=
  if ['\\', ' '].isSuffixOf line.toList then line.toList
  else (Text.trimRight line).toList

/-- Takes the mark of a rule that keeps off a line: whether it was there,
whether the rest is anchored to the directory of the file, and the rest. -/
def unmarked : List Char → Bool × Bool × List Char
  | '\\' :: '!' :: rest => (false, false, '!' :: rest)
  | '\\' :: '#' :: rest => (false, false, '#' :: rest)
  | '!' :: '/' :: rest => (true, true, rest)
  | '!' :: rest => (true, false, rest)
  | '/' :: rest => (false, true, rest)
  | cs => (false, false, cs)

/-- Takes the slash that restricts a rule to directories off a line: whether it
was there, and the rest. -/
def undirected (cs : List Char) : Bool × List Char :=
  match cs.reverse with
  | '/' :: '\\' :: rest => (true, rest.reverse)
  | '/' :: rest => (true, rest.reverse)
  | _ => (false, cs)

/-- The glob of a rule: at any depth unless anchored or given with a slash, and
below a directory rather than the directory itself when it ends in `/**`. -/
def fullGlob (anchored : Bool) (cs : List Char) : List Char :=
  let anywhere := !anchored && !cs.contains '/' && cs != ['*', '*']
  let cs := if anywhere then ['*', '*', '/'] ++ cs else cs
  if ['/', '*', '*'].isSuffixOf cs then cs ++ ['/', '*'] else cs

/-- The rule on a line; none on comments, blank lines and lines that spell no
glob. -/
def ofLine? (line : String) : Option IgnoreRule :=
  if ['#'].isPrefixOf line.toList then none
  else match strippedLine line with
    | [] => none
    | cs =>
      let (keeps, anchored, cs) := unmarked cs
      let (onlyDirectories, cs) := undirected cs
      (Glob.ofText? (String.ofList (fullGlob anchored cs))).map fun glob =>
        { glob, keeps, onlyDirectories }

/-- Whether the rule fits a path, which is given from the directory of the
file. -/
def fits (rule : IgnoreRule) (path : String) (isDirectory : Bool) : Bool :=
  (!rule.onlyDirectories || isDirectory) && rule.glob.matchesPath path

end IgnoreRule

namespace IgnoreFile

/-- A line without the carriage return that may stand before its line feed. -/
def withoutReturn (bytes : List UInt8) : List UInt8 :=
  if bytes.getLast? = some 0x0D then bytes.dropLast else bytes

/-- The bytes of a file, line by line; what follows the last line end is a line
unless it is empty. -/
def linesOf (content : ByteArray) : List (List UInt8) :=
  let pieces := content.toList.splitOnP (· == 0x0A)
  let last := pieces.getLast?.getD []
  pieces.dropLast.map withoutReturn ++ if last.isEmpty then [] else [last]

/-- The texts of the lines, up to the first that is not UTF-8. -/
def textsOf : List (List UInt8) → List String
  | [] => []
  | bytes :: rest =>
    match String.fromUTF8? ⟨bytes.toArray⟩ with
    | none => []
    | some text => text :: textsOf rest

/-- The texts of the lines without the byte order mark that may begin the
first. -/
def withoutMark : List String → List String
  | [] => []
  | first :: rest =>
    String.ofList (first.toList.dropWhile (·.toNat == 0xFEFF)) :: rest

/-- Reads an ignore file.  A glob that nests too deep spoils all the rules. -/
def ofContent (content : ByteArray) : IgnoreFile :=
  let rules :=
    (withoutMark (textsOf (linesOf content))).filterMap IgnoreRule.ofLine?
  if rules.all fun rule => rule.glob.depth ≤ Glob.depthLimit then rules else []

/-- What the file says about a path: whether it is ignored, if any rule fits. -/
def verdict? (file : IgnoreFile) (path : String) (isDirectory : Bool) :
    Option Bool :=
  (file.reverse.find? fun rule => rule.fits path isDirectory).map
    fun rule => !rule.keeps

end IgnoreFile

end CallGraph
