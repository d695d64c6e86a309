import CallGraph.Imports
import CallGraph.Language
import CallGraph.NameSet

/-!
# Callees and their candidates

A call names its target by an expression, of which only the shape counts.  The
candidates of a callee are the names of the functions it may mean.  Nothing is
known of the types of receivers, so `object.run()` may mean any function `run`,
whatever class it belongs to: the candidates are more than the true targets,
never fewer names than the expression itself spells.
-/

namespace CallGraph

/-- The shape of the expression that is called. -/
inductive Callee
  /-- `f()` -/
  | name (name : String)
  /-- `a.b.member()`; there is no receiver path when the receiver is not a
  chain of names. -/
  | member (receiver : Option (List String)) (member : String)
  /-- `ns::Class::f()` -/
  | qualified (segments : List String)
  /-- `table[key]()` -/
  | subscript (name : String)
  /-- Any other expression. -/
  | unsupported
deriving DecidableEq

namespace Callee

/-- A name as a candidate, unless it is empty. -/
def spelled (name : String) : List String :=
  if name = "" then [] else [name]

/-- The name of a member of the class around the call; only C++ looks there. -/
def inClass (language : Language) (enclosing : Option String)
    (name : String) : List String :=
  if language = .cpp then
    (enclosing.map fun cls => cls ++ "::" ++ name).toList
  else []

/-- Whether a receiver means the object whose method is running. -/
def isSelf (receiver : String) : Bool := receiver = "self" ∨ receiver = "this"

/-- The names that a receiver path adds to those of the bare member. -/
def throughReceiver (language : Language) (enclosing : Option String)
    (member : String) :
    Option (List String) → List String
  | none | some [] => []
  | some [receiver] =>
    if isSelf receiver then inClass language enclosing member
    else [receiver ++ language.qualifier ++ member]
  | some path =>
    [String.intercalate language.qualifier path ++ language.qualifier ++ member]

/-- The last segment of a qualified name, the whole name, and the last two
segments of a longer one. -/
def qualifiedNames (segments : List String) : List String :=
  match segments.getLast? with
  | none => []
  | some last =>
    [last, Text.joinColons segments] ++
      if 2 < segments.length then
        [Text.joinColons (segments.drop (segments.length - 2))]
      else []

/-- The candidates of a callee, listed. -/
def candidateNames (language : Language) (imports : ImportMap)
    (enclosing : Option String) :
    Callee → List String
  | name n =>
    spelled n ++ (imports.origin? n).toList.flatMap spelled ++
      inClass language enclosing n
  | member receiver m =>
    spelled m ++ throughReceiver language enclosing m receiver
  | qualified segments => qualifiedNames (segments.filter (· ≠ ""))
  | subscript n => spelled n
  | unsupported => []

/-- The names of the functions that a callee may mean, given the imports of the
file and the class around the call. -/
def candidates (language : Language) (imports : ImportMap)
    (enclosing : Option String)
    (callee : Callee) : NameSet :=
  NameSet.ofList (callee.candidateNames language imports enclosing)

end Callee

/-- One call in the body of a function. -/
structure CallSite where
  /-- The name of the function around the call. -/
  caller : String
  /-- The callee as written. -/
  raw : String
  line : Nat
  callee : Callee
  candidates : NameSet
deriving DecidableEq

end CallGraph
