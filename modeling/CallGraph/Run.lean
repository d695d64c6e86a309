import CallGraph.Detection
import CallGraph.Extract.Analysis
import CallGraph.Options
import CallGraph.Report.Graph

/-!
# Runs

A run picks the files of its language, analyses each of them, merges the
reports and draws the graph.  It always ends in a report: what goes wrong is
told in it.
-/

namespace CallGraph

/-- A file given by its path and its text. -/
structure SourceFile where
  path : String
  text : String

/-- Consecutive shares of at most `size` items. -/
def shares {α : Type} (size : Nat) (items : List α) : List (List α) :=
  match items with
  | [] => []
  | first :: rest =>
    (first :: rest.take (size - 1)) :: shares size (rest.drop (size - 1))
termination_by items.length
decreasing_by simp only [List.length_drop, List.length_cons]; omega

/-- Deals the items out to the workers in consecutive shares and gathers the
results in order. -/
def mapInShares {α β : Type} (workers : Nat) (f : α → β) (items : List α) :
    List β :=
  let size := (items.length + max workers 1 - 1) / max workers 1
  (shares size items).flatMap fun share => share.map f

/-- Analyses files of one language. -/
def analyzeAll (grammar : Grammar) (language : Language)
    (includePrivate : Bool) (workers : Nat)
    (files : List SourceFile) : List FileReport :=
  mapInShares workers
    (fun f => analyzeText grammar includePrivate language f.path f.text) files

/-- Whether a path belongs to a run in a language. -/
def Options.selects (options : Options) (language : Language)
    (path : String) : Bool :=
  language.matchesPath path && !options.exclusions.excludes path

/-- The language of a run over some paths; a report instead when there is none,
or when no path belongs to the run. -/
def Options.languageFor (options : Options) (paths : List String) :
    Except Report Language :=
  match options.language.or (Language.detectProject? paths) with
  | none => .error (.empty none [(Failure.emptyProject "supported").message])
  | some language =>
    if paths.any (options.selects language) then .ok language
    else
      .error (.empty (some language)
        [(Failure.emptyProject language.displayName).message])

/-- The report on the analysed files of a run. -/
def Options.conclude (options : Options) (language : Language)
    (reports : List FileReport) :
    Report :=
  (ProjectIndex.ofReports options.exclusions reports).report language
    options.cap

/-- Runs over files given with their texts. -/
def analyzeFiles (grammar : Grammar) (options : Options)
    (files : List SourceFile) : Report :=
  match options.languageFor (files.map (·.path)) with
  | .error report => report
  | .ok language =>
    options.conclude language
      (analyzeAll grammar language options.includePrivate options.workers
        (files.filter fun f => options.selects language f.path))

/-- Runs over files in the language that a selector names; an unknown one is
told in the report. -/
def analyzeFilesAs (grammar : Grammar) (selector : String) (options : Options)
    (files : List SourceFile) : Report :=
  match Language.ofSelector selector with
  | .error failure => .empty none [failure.message]
  | .ok language =>
    analyzeFiles grammar { options with language := some language } files

end CallGraph
