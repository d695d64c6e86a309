import CallGraph.Language

/-!
# Detecting languages

The language of a file from the extension of its name, and the language of a
project from those of its files: C++ before C before Python.
-/

namespace CallGraph

/-- The name of the file that a path leads to: its last component, where empty
components and `.` do not count; none when that is `..`. -/
def fileName? (path : List Char) : Option (List Char) :=
  ((path.splitOnP (· == '/')).filter
    fun p => p ≠ [] ∧ p ≠ ['.']).getLast?.filter (· ≠ ['.', '.'])

/-- The text after the last full stop of a file name, unless that full stop
comes first. -/
def extensionOf? (name : List Char) : Option (List Char) :=
  let ext := (name.reverse.takeWhile (· != '.')).reverse
  if ext.length + 1 < name.length then some ext else none

namespace Language

/-- The language of files with a given extension; headers count as C. -/
def ofExtension? (ext : List Char) : Option Language :=
  if ext = "py".toList then some python
  else if ext = "c".toList ∨ ext = "h".toList then some c
  else if ["cpp", "cc", "cxx", "c++", "hpp", "hh", "hxx"].any
      (·.toList = ext) then some cpp
  else none

/-- The language of a file, by its extension. -/
def detect? (path : String) : Option Language :=
  (fileName? (Text.lower path).toList).bind fun name =>
    (extensionOf? name).bind ofExtension?

/-- The language of a project with the given files. -/
def detectProject? (paths : List String) : Option Language :=
  [cpp, c, python].find? fun language =>
    paths.any fun p => detect? p = some language

end Language

end CallGraph
