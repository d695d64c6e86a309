import CallGraph.FunctionInfo
import CallGraph.Language

/-!
# Reports

The outcome of a run: a graph of functions and external names with the calls
between them, counts, failures in words, and a warning when not every function
is shown.
-/

namespace CallGraph

/-- A defined function that is shown. -/
structure FunctionNode where
  id : String
  /-- The first definition of the name. -/
  info : FunctionInfo
  language : Language
  /-- Whether the function calls or is called by a defined function. -/
  connected : Bool
  /-- The number of definitions of the name. -/
  definitions : Nat
deriving DecidableEq

/-- A called name without a definition. -/
structure ExternalNode where
  id : String
  /-- Whether a function that is shown calls it. -/
  connected : Bool
deriving DecidableEq

/-- A node of the graph. -/
inductive GraphNode
  | function (node : FunctionNode)
  | external (node : ExternalNode)
deriving DecidableEq

namespace GraphNode

/-- The name that identifies the node. -/
def id : GraphNode → String
  | function node => node.id
  | external node => node.id

/-- Whether the node stands for a name without a definition. -/
def isExternal : GraphNode → Bool
  | function _ => false
  | external _ => true

end GraphNode

/-- A call from one node to another. -/
structure Edge where
  source : String
  target : String
  /-- The first file in which the call occurs. -/
  file : Option String
deriving DecidableEq

/-- Counts that depend on the language. -/
inductive Tallies
  | python (privateFunctions asyncFunctions methods decoratedFunctions classes
      imports : Nat)
  | cFamily (staticFunctions templateFunctions methods namespacedFunctions
      classes namespaces includes : Nat)
deriving DecidableEq

namespace Tallies

/-- The tallies of a language from a list of counts in their usual order;
missing ones are zero. -/
def ofCounts (language : Language) (counts : List Nat) : Tallies :=
  let count := fun i => counts.getD i 0
  match language with
  | .python =>
    .python (count 0) (count 1) (count 2) (count 3) (count 4) (count 5)
  | .c | .cpp =>
    .cFamily (count 0) (count 1) (count 2) (count 3) (count 4) (count 5)
      (count 6)

/-- The tallies of a run that found nothing. -/
def zero (language : Language) : Tallies := ofCounts language []

/-- The counts with their names, in their usual order. -/
def counters : Tallies → List (String × Nat)
  | python privateFunctions asyncFunctions methods decoratedFunctions classes
      imports =>
    [("private_functions", privateFunctions),
      ("async_functions", asyncFunctions), ("methods", methods),
      ("decorated_functions", decoratedFunctions), ("classes", classes),
      ("imports", imports)]
  | cFamily staticFunctions templateFunctions methods namespacedFunctions
      classes namespaces includes =>
    [("static_functions", staticFunctions),
      ("template_functions", templateFunctions), ("methods", methods),
      ("namespaced_functions", namespacedFunctions), ("classes", classes),
      ("namespaces", namespaces), ("includes", includes)]

end Tallies

/-- The counts of a report. -/
structure Stats where
  /-- Distinct names of functions. -/
  totalFunctions : Nat := 0
  totalDefinitions : Nat := 0
  displayedFunctions : Nat := 0
  /-- Edges of the graph. -/
  totalCalls : Nat := 0
  connectedFunctions : Nat := 0
  isolatedFunctions : Nat := 0
  externalReferences : Nat := 0
  filesProcessed : Nat := 0
  /-- Present when the language is known. -/
  tallies : Option Tallies := none
deriving DecidableEq

/-- The outcome of a run. -/
structure Report where
  language : Option Language := none
  nodes : List GraphNode := []
  edges : List Edge := []
  stats : Stats := {}
  errors : List String := []
  warning : Option String := none
deriving DecidableEq

/-- The report of a run without a graph. -/
def Report.empty (language : Option Language) (errors : List String) : Report :=
  { language, errors, stats := { tallies := language.map Tallies.zero } }

/-- The names of the functions that are shown. -/
def Report.functionIds (report : Report) : List String :=
  (report.nodes.filter fun n => !n.isExternal).map GraphNode.id

/-- The external names that are shown. -/
def Report.externalIds (report : Report) : List String :=
  (report.nodes.filter GraphNode.isExternal).map GraphNode.id

end CallGraph
