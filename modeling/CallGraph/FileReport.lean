import CallGraph.Callee
import CallGraph.FunctionInfo
import CallGraph.Outline

/-!
# File reports

What the analysis of one file found: its functions, the names that each of them
calls, its outline, or the failure that kept it from being analysed.
-/

namespace CallGraph

/-- The names called from each function of a file, callers in ascending order.
-/
structure CallMap where
  entries : List (String × NameSet)
  ascending : (entries.map Prod.fst).Pairwise (· < ·)
deriving DecidableEq

namespace CallMap

/-- The map without callers. -/
def empty : CallMap := ⟨[], by simp⟩

/-- What `caller` calls, over all the pairs of a list. -/
def calledBy (pairs : List (String × NameSet)) (caller : String) : NameSet :=
  NameSet.unions ((pairs.filter fun p => p.1 = caller).map Prod.snd)

/-- The map that gives each caller of a list everything listed for it. -/
def ofPairs (pairs : List (String × NameSet)) : CallMap where
  entries := (NameSet.ofList (pairs.map Prod.fst)).toList.map
    fun c => (c, calledBy pairs c)
  ascending := by
    simpa [List.map_map, Function.comp_def] using
      (NameSet.ofList (pairs.map Prod.fst)).ascending

/-- The map without the callers that call nothing. -/
def dropEmpty (m : CallMap) : CallMap where
  entries := m.entries.filter fun e => !e.2.isEmpty
  ascending := m.ascending.sublist (List.filter_sublist.map Prod.fst)

/-- What a caller calls. -/
def get? (m : CallMap) (caller : String) : Option NameSet :=
  (m.entries.find? fun e => e.1 = caller).map Prod.snd

/-- What a caller calls, nothing when it is not in the map. -/
def targetsOf (m : CallMap) (caller : String) : NameSet :=
  (m.get? caller).getD .empty

/-- Everything that is called. -/
def called (m : CallMap) : NameSet := NameSet.unions (m.entries.map Prod.snd)

end CallMap

/-- Everything learned from one file. -/
structure FileReport where
  path : String
  language : Language
  functions : List FunctionInfo := []
  calls : CallMap := .empty
  outline : Outline := {}
  failure : Option Failure := none

/-- The report of a file that could not be analysed. -/
def FileReport.failed (path : String) (language : Language)
    (failure : Failure) : FileReport :=
  { path, language, failure := some failure }

/-- Whether the file was analysed. -/
def FileReport.parsed (report : FileReport) : Bool := report.failure.isNone

end CallGraph
