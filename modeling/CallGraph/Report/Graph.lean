import CallGraph.KnownNames
import CallGraph.ProjectIndex
import CallGraph.Report.Basic

/-!
# The graph of a project

From a project index to a report.  All defined functions are shown if there are
at most `cap` of them; otherwise the connected ones, if there are at most `cap`
of those; otherwise the `cap` best, by score and then by name.  External names
are shown up to a fixed number, in ascending order.  An edge joins a function
that is shown to a node that is shown when a function of the first name calls
the second.
-/

namespace CallGraph

/-- The number of external names that are shown at most. -/
def externalLimit : Nat := 20

namespace ProjectIndex

variable (index : ProjectIndex)

/-- The defined names that are called by anything, or that call a defined
name. -/
def connected : NameSet :=
  let names := index.names
  let calls := index.callTable
  let called := calls.called
  names.filter fun name =>
    name ∈ called || (calls.targetsOf name).toList.any (· ∈ names)

/-- The number of names from which a name is called. -/
def indegree (calls : CallMap) (name : String) : Nat :=
  calls.entries.countP fun e => name ∈ e.2

/-- The number of defined names that are called from a name. -/
def outdegree (calls : CallMap) (names : NameSet) (name : String) : Nat :=
  (calls.targetsOf name).toList.countP (· ∈ names)

/-- The names with their weights, which decide when not all can be shown: calls
to a name count twice, calls from it and definitions of it once. -/
def scored : List (Nat × String) :=
  let names := index.names
  let calls := index.callTable
  names.toList.map fun name =>
    (2 * indegree calls name + outdegree calls names name +
      index.occurrenceCount name, name)

/-- Whether the first name is shown rather than the second: the greater weight
wins, then the lesser name. -/
def preferred (a b : Nat × String) : Bool :=
  b.1 < a.1 || (a.1 == b.1 && a.2 ≤ b.2)

/-- The `limit` best names. -/
def best (limit : Nat) : NameSet :=
  NameSet.ofList (((index.scored.mergeSort preferred).take limit).map Prod.snd)

/-- The names that are shown under a cap. -/
def displayed (cap : Nat) : NameSet :=
  if index.names.size ≤ cap then index.names
  else if index.connected.size ≤ cap then index.connected
  else index.best cap

/-- What is said when not all names are shown. -/
def warning? (cap : Nat) : Option String :=
  let total := index.names.size
  let linked := index.connected.size
  let hidden := total - linked
  if total ≤ cap then none
  else if linked ≤ cap then
    some (s!"Showing {linked} connected functions out of {total} total; " ++
      s!"{hidden} isolated functions hidden")
  else
    some (s!"Showing top {cap} of {total} functions ranked by " ++
      s!"connectivity ({linked} connected)")

/-- The called names without a definition that are worth reporting. -/
def externals (language : Language) : NameSet :=
  let names := index.names
  index.callTable.called.filter fun name =>
    !decide (name ∈ names) && language.reportsExternal name

/-- The external names that are shown. -/
def shownExternals (language : Language) : NameSet :=
  (index.externals language).take externalLimit

/-- The calls from a name to the nodes that are shown. -/
def edgesFrom (shown externals : NameSet) (caller : String)
    (targets : NameSet) : List Edge :=
  (targets.toList.filter
    fun target => target ∈ shown || target ∈ externals).map fun target =>
    ⟨caller, target, index.firstFile? caller target⟩

/-- The calls between the nodes that are shown, in ascending order. -/
def edges (language : Language) (cap : Nat) : List Edge :=
  let shown := index.displayed cap
  let externals := index.shownExternals language
  (index.callTable.entries.filter fun e => e.1 ∈ shown).flatMap fun e =>
    index.edgesFrom shown externals e.1 e.2

/-- The node of a defined name; a name without definitions has none. -/
def functionNode? (language : Language) (connected : NameSet) (name : String) :
    Option FunctionNode :=
  (index.primary? name).map fun info =>
    { id := name
      info
      language
      connected := name ∈ connected
      definitions := index.occurrenceCount name }

/-- The nodes that are shown: functions, then external names. -/
def nodes (language : Language) (cap : Nat) : List GraphNode :=
  let connected := index.connected
  let targets := NameSet.ofList ((index.edges language cap).map (·.target))
  ((index.displayed cap).toList.filterMap
    (index.functionNode? language connected)).map .function ++
      (index.shownExternals language).toList.map
        fun name => .external ⟨name, name ∈ targets⟩

/-- How many definitions satisfy `p`. -/
def countWhere (p : FunctionInfo → Bool) : Nat := index.allDefinitions.countP p

/-- The counts that depend on the language. -/
def tallies : Language → Tallies
  | .python =>
    .python (index.countWhere (·.flags.isPrivate))
      (index.countWhere (·.flags.isAsync)) (index.countWhere (·.flags.isMethod))
      (index.countWhere fun f => !f.decorators.isEmpty)
      index.outline.classes index.outline.imports
  | .c | .cpp =>
    .cFamily (index.countWhere (·.flags.isStatic))
      (index.countWhere (·.flags.isTemplate))
      (index.countWhere (·.flags.isMethod))
      (index.countWhere (·.namespacePath.isSome))
      index.outline.classes index.outline.namespaces index.outline.includes

/-- The counts of a report. -/
def stats (language : Language) (cap : Nat) : Stats :=
  { totalFunctions := index.names.size
    totalDefinitions := index.totalDefinitions
    displayedFunctions := (index.displayed cap).size
    totalCalls := (index.edges language cap).length
    connectedFunctions := index.connected.size
    isolatedFunctions := index.names.size - index.connected.size
    externalReferences := (index.externals language).size
    filesProcessed := index.filesProcessed
    tallies := some (index.tallies language) }

/-- The report of a project under a cap on the number of functions shown.  A
project without functions has no graph, which is one more error. -/
def report (language : Language) (cap : Nat) : Report :=
  if index.names.isEmpty then
    .empty (some language)
      (index.errors ++ [(Failure.noFunctions index.filesProcessed).message])
  else
    { language := some language
      nodes := index.nodes language cap
      edges := index.edges language cap
      stats := index.stats language cap
      errors := index.errors
      warning := index.warning? cap }

end ProjectIndex

end CallGraph
