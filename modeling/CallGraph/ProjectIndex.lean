import CallGraph.Exclusion
import CallGraph.FileReport

/-!
# Project indexes

The reports of all the files of a project, merged: every definition of every
name, and the names called from each function of each file.  Files come in
ascending order of their paths, so that the first definition of a name is the
one with the least path.
-/

namespace CallGraph

/-- How many classes, namespaces, includes and imports the files of a project
have. -/
structure OutlineTotals where
  classes : Nat := 0
  namespaces : Nat := 0
  includes : Nat := 0
  imports : Nat := 0
deriving DecidableEq

/-- The merged reports of a project. -/
structure ProjectIndex where
  /-- The definitions of each name, in the order of the files. -/
  registry : OrderedMap String (List FunctionInfo) := .empty
  /-- The names called from each function, which is known by its file and its
  name. -/
  calls : OrderedMap (String × String) NameSet := .empty
  /-- What kept files from being analysed, in words. -/
  errors : List String := []
  filesProcessed : Nat := 0
  filesFailed : Nat := 0
  outline : OutlineTotals := {}

namespace ProjectIndex

/-- Adds definitions of a name. -/
def addDefinitions (index : ProjectIndex) (name : String)
    (infos : List FunctionInfo) :
    ProjectIndex :=
  { index with registry := index.registry.adjust name [] (· ++ infos) }

/-- Adds names called from a function of a file. -/
def addCalls (index : ProjectIndex) (file function : String)
    (targets : NameSet) : ProjectIndex :=
  { index with
    calls := index.calls.adjust (file, function) .empty (·.union targets) }

/-- Counts the outline of one more file. -/
def addOutline (totals : OutlineTotals) (outline : Outline) : OutlineTotals :=
  { classes := totals.classes + outline.classes.length
    namespaces := totals.namespaces + outline.namespaces.length
    includes := totals.includes + outline.includes.length
    imports := totals.imports + outline.imports.length }

/-- Takes in the report of one file; a failure adds nothing but its message. -/
def merge (index : ProjectIndex) (report : FileReport) : ProjectIndex :=
  match report.failure with
  | some failure =>
    { index with
      filesFailed := index.filesFailed + 1
      errors := index.errors ++ [failure.message] }
  | none =>
    let counted := { index with
      filesProcessed := index.filesProcessed + 1
      outline := addOutline index.outline report.outline }
    let defined :=
      report.functions.foldl (fun i f => i.addDefinitions f.name [f]) counted
    report.calls.entries.foldl
      (fun i (caller, targets) => i.addCalls report.path caller targets)
      defined

/-- The reports in ascending order of their paths; reports of one path keep
their order. -/
def inPathOrder (reports : List FileReport) : List FileReport :=
  reports.mergeSort fun a b => a.path ≤ b.path

/-- The index of the reports that the rules do not exclude. -/
def ofReports (rules : ExclusionRules) (reports : List FileReport) :
    ProjectIndex :=
  ((inPathOrder reports).filter fun r => !rules.excludes r.path).foldl merge {}

/-- The defined names. -/
def names (index : ProjectIndex) : NameSet := NameSet.ofList index.registry.keys

/-- The definitions of a name. -/
def definitionsOf (index : ProjectIndex) (name : String) : List FunctionInfo :=
  (index.registry.get? name).getD []

/-- The number of definitions of a name. -/
def occurrenceCount (index : ProjectIndex) (name : String) : Nat :=
  (index.definitionsOf name).length

/-- The definition of a name that came first. -/
def primary? (index : ProjectIndex) (name : String) : Option FunctionInfo :=
  (index.definitionsOf name).head?

/-- All the definitions, name by name. -/
def allDefinitions (index : ProjectIndex) : List FunctionInfo :=
  index.registry.values.flatten

/-- The number of definitions. -/
def totalDefinitions (index : ProjectIndex) : Nat :=
  index.registry.values.flatten.length

/-- The names called from each name, over all files. -/
def callTable (index : ProjectIndex) : CallMap :=
  CallMap.ofPairs (index.calls.entries.map fun e => (e.1.2, e.2))

/-- The first file in which a function of one name calls another. -/
def firstFile? (index : ProjectIndex) (caller target : String) :
    Option String :=
  (index.calls.entries.find? fun e => e.1.2 = caller ∧ target ∈ e.2).map
    fun e => e.1.1

end ProjectIndex

end CallGraph
