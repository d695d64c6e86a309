import CallGraph.Failure
import CallGraph.Text.Blank
import CallGraph.Text.Lower

/-!
# Source languages

The three languages whose files can be analysed, how a caller selects one, and
which files belong to it.  A header `.h` belongs to C and to C++ alike.
-/

namespace CallGraph

/-- A language whose functions and calls can be extracted. -/
inductive Language
  | python
  | c
  | cpp
deriving DecidableEq

namespace Language

/-- The word that selects the language. -/
def selector : Language → String
  | python => "python"
  | c => "c"
  | cpp => "cpp"

/-- The name of the language in reports. -/
def displayName : Language → String
  | python => "Python"
  | c => "C"
  | cpp => "C++"

/-- The file name endings of the language, in lower case. -/
def extensions : Language → List String
  | python => [".py"]
  | c => [".c", ".h"]
  | cpp => [".cpp", ".cc", ".cxx", ".c++", ".hpp", ".hh", ".hxx", ".h"]

/-- What stands between a container and its member in a qualified name. -/
def qualifier : Language → String
  | python => "."
  | c | cpp => "::"

/-- Whether the path ends like a file of the language, whatever its letter
case. -/
def matchesPath (language : Language) (path : String) : Bool :=
  let lowered := (Text.lower path).toList
  language.extensions.any fun ext => ext.toList.isSuffixOf lowered

/-- The language a selector names; blanks around it and letter case do not
matter. -/
def ofSelector (text : String) : Except Failure Language :=
  let word := Text.lower (Text.trim text)
  if word = "python" ∨ word = "py" then .ok python
  else if word = "c" then .ok c
  else if word = "cpp" ∨ word = "c++" ∨ word = "cxx" then .ok cpp
  else .error (.unsupportedLanguage word)

end Language

end CallGraph
