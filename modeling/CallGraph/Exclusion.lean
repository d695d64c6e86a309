import CallGraph.NameSet
import CallGraph.Pattern.Occurrence

/-!
# Exclusion rules

Which files stay out of a run: those below a directory of an excluded name, and
those whose own name matches a pattern.  Slashes and backslashes both separate
the components of a path, and empty components do not count.

Of a pattern the rules keep only which names it matches.  How a text is taken
for a pattern is an argument of `withCompiled?`; `withPattern?` takes it as
`Pattern.ofText?` does.
-/

namespace CallGraph

/-- The non-empty pieces of a path between slashes or backslashes. -/
def pathComponents (path : String) : List String :=
  ((path.toList.splitOnP fun c => c == '/' || c == '\\').filter
    fun p => !p.isEmpty).map String.ofList

/-- Names of directories and patterns for names of files that are left out. -/
structure ExclusionRules where
  directories : NameSet
  /-- Each pattern as the names that it matches. -/
  patterns : List (String → Bool)

namespace ExclusionRules

/-- The rules that exclude nothing. -/
def none : ExclusionRules := ⟨.empty, []⟩

/-- Excludes one more name of directories. -/
def withDirectory (rules : ExclusionRules) (name : String) : ExclusionRules :=
  { rules with directories := rules.directories.insert name }

/-- Excludes the files whose names match one more pattern, if the text compiles
to one. -/
def withCompiled? (compile : String → Option (String → Bool))
    (rules : ExclusionRules) (text : String) : Option ExclusionRules :=
  (compile text).map fun matching =>
    { rules with patterns := rules.patterns ++ [matching] }

/-- The names that the pattern of a text occurs in, if the text is a pattern. -/
def compilePattern? (text : String) : Option (String → Bool) :=
  (Pattern.ofText? text).map Pattern.occursIn

/-- Excludes the files in whose names one more pattern occurs, if the text is a
pattern. -/
def withPattern? (rules : ExclusionRules) (text : String) :
    Option ExclusionRules :=
  rules.withCompiled? compilePattern? text

/-- The directories of version control, of build output, of caches and of
foreign code. -/
def usualDirectories : List String := [
  ".git", ".hg", ".svn", "venv", ".venv", "env", "__pycache__", "node_modules",
  "site-packages", "build", "dist", ".tox", ".mypy_cache", ".pytest_cache",
  "cmake-build-debug", "cmake-build-release"]

/-- The names of files that hold tests. -/
def testPatterns : List String := [
  "^test_.*\\.py$", "^.*_test\\.py$", "^conftest\\.py$", "^test_.*\\.(c|cpp)$",
  "^.*_test\\.(c|cpp|cc)$", "^.*_unittest\\.cc$"]

/-- The rules that leave out test files and the usual directories. -/
def usual : ExclusionRules :=
  ⟨NameSet.ofList usualDirectories, testPatterns.filterMap compilePattern?⟩

/-- Whether directories of this name are left out. -/
def excludesDirectory (rules : ExclusionRules) (name : String) : Bool :=
  name ∈ rules.directories

/-- Whether files of this name are left out. -/
def excludesFileName (rules : ExclusionRules) (name : String) : Bool :=
  rules.patterns.any fun matching => matching name

/-- Whether the file at a path is left out. -/
def excludes (rules : ExclusionRules) (path : String) : Bool :=
  match (pathComponents path).getLast? with
  | Option.none => false
  | some fileName =>
    (pathComponents path).dropLast.any rules.excludesDirectory ||
      rules.excludesFileName fileName

end ExclusionRules

end CallGraph
