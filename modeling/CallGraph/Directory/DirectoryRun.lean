import CallGraph.Directory.Scan
import CallGraph.Run

/-!
# Runs over a directory

A run over the source files that a scan finds.  A file that cannot be read is a
failure of that file alone.
-/

namespace CallGraph

/-- Analyses a file whose text may be missing. -/
def analyzeReading (grammar : Grammar) (includePrivate : Bool)
    (language : Language)
    (path : String) : Except Failure String → FileReport
  | .error failure => .failed path language failure
  | .ok text => analyzeText grammar includePrivate language path text

/-- Runs over the paths of a list, each with its text if it can be read. -/
def analyzePaths (grammar : Grammar) (options : Options)
    (read : String → Except Failure String)
    (paths : List String) : Report :=
  match options.languageFor paths with
  | .error report => report
  | .ok language =>
    options.conclude language
      (mapInShares options.workers
        (fun path => analyzeReading grammar options.includePrivate language
          path (read path))
        (paths.filter (options.selects language)))

namespace Directory

/-- Analyses the file at a path that is given from `root`. -/
def analyzeFile (d : Directory) (grammar : Grammar) (includePrivate : Bool)
    (root path : String)
    (language : Language) : FileReport :=
  analyzeReading grammar includePrivate language path (d.readSource root path)

/-- Runs over the source files below the folder at `root`. -/
def analyze (d : Directory) (grammar : Grammar) (options : Options)
    (root : String) : Report :=
  match d.scan root options.exclusions with
  | .error failure => .empty options.language [failure.message]
  | .ok paths => analyzePaths grammar options (d.readSource root) paths

end Directory

end CallGraph
