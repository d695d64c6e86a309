import CallGraph.Text.Blank
import CallGraph.Text.Segment

/-!
# Qualified names

The segments of a name such as `::ns::Box<T>::get`, without template arguments.
-/

namespace CallGraph.QualifiedName

/-- Drops what stands between angle brackets, of which `depth` are open; a
closing bracket without an opening one stays. -/
def dropTemplateArgs (depth : Nat) : List Char → List Char
  | [] => []
  | c :: rest =>
    if c = '<' then dropTemplateArgs (depth + 1) rest
    else if c = '>' ∧ 0 < depth then dropTemplateArgs (depth - 1) rest
    else if depth = 0 then c :: dropTemplateArgs depth rest
    else dropTemplateArgs depth rest

/-- A segment without its template arguments; the name of an operator stays as
it is. -/
def stripTemplateArgs (segment : List Char) : List Char :=
  if "operator".toList.isPrefixOf segment then segment
  else dropTemplateArgs 0 segment

/-- A name without blanks and template arguments. -/
def bare (name : String) : String :=
  String.ofList (stripTemplateArgs (Text.compact name).toList)

/-- The segments of a qualified name, none of them empty. -/
def segments (name : String) : List String :=
  (((Text.splitColons (Text.compact name).toList).map stripTemplateArgs).filter
    fun s => !s.isEmpty).map String.ofList

end CallGraph.QualifiedName
