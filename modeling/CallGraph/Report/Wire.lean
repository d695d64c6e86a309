import CallGraph.Json
import CallGraph.Report.Basic

/-!
# The written form of a report

A report as a JSON value.  What a node lacks is left out; errors, warning and
language are null when there are none.  The counts that depend on the language
follow the common ones, in alphabetical order.
-/

namespace CallGraph

/-- A field that is left out when there is no value. -/
def optionalField {α : Type} (name : String) (f : α → Json) :
    Option α → List (String × Json)
  | none => []
  | some a => [(name, f a)]

/-- The flags that are written for a function of a language. -/
def flagFields (flags : FunctionFlags) : Language → List (String × Json)
  | .python =>
    [("is_private", .bool flags.isPrivate), ("is_async", .bool flags.isAsync),
      ("is_method", .bool flags.isMethod)]
  | .c => [("is_static", .bool flags.isStatic)]
  | .cpp =>
    [("is_method", .bool flags.isMethod), ("is_static", .bool flags.isStatic),
      ("is_template", .bool flags.isTemplate)]

/-- The return type as it is written: Python functions have none. -/
def writtenReturnType (node : FunctionNode) : Option String :=
  match node.language with
  | .python => none
  | .c | .cpp => node.info.returnType

/-- The written form of a function. -/
def FunctionNode.toJson (node : FunctionNode) : Json :=
  .obj (
    [("id", .str node.id), ("label", .str node.id),
      ("file", .str node.info.filePath),
      ("connected", .bool node.connected)] ++
    flagFields node.info.flags node.language ++
    optionalField "class_name" .str node.info.className ++
    optionalField "namespace" .str node.info.namespacePath ++
    [("line", .num node.info.line)] ++
    optionalField "return_type" .str (writtenReturnType node) ++
    (if node.info.decorators.isEmpty then []
      else [("decorators", .strings node.info.decorators)]) ++
    (if 1 < node.definitions then [("definitions", .num node.definitions)]
      else []))

/-- The written form of an external name. -/
def ExternalNode.toJson (node : ExternalNode) : Json :=
  .obj [("id", .str node.id), ("label", .str node.id),
    ("connected", .bool node.connected), ("external", .bool true)]

/-- The written form of a node. -/
def GraphNode.toJson : GraphNode → Json
  | function node => node.toJson
  | external node => node.toJson

/-- The written form of an edge. -/
def Edge.toJson (edge : Edge) : Json :=
  .obj ([("from", .str edge.source), ("to", .str edge.target)] ++
    optionalField "file" .str edge.file)

/-- The written tallies, in alphabetical order of their names. -/
def Tallies.fields : Tallies → List (String × Json)
  | python privateFunctions asyncFunctions methods decoratedFunctions classes
      imports =>
    [("async_functions", .num asyncFunctions), ("classes", .num classes),
      ("decorated_functions", .num decoratedFunctions),
      ("imports", .num imports), ("methods", .num methods),
      ("private_functions", .num privateFunctions)]
  | cFamily staticFunctions templateFunctions methods namespacedFunctions
      classes namespaces includes =>
    [("classes", .num classes), ("includes", .num includes),
      ("methods", .num methods),
      ("namespaced_functions", .num namespacedFunctions),
      ("namespaces", .num namespaces),
      ("static_functions", .num staticFunctions),
      ("template_functions", .num templateFunctions)]

/-- The written form of the counts. -/
def Stats.toJson (stats : Stats) : Json :=
  .obj (
    [("total_functions", .num stats.totalFunctions),
      ("total_definitions", .num stats.totalDefinitions),
      ("displayed_functions", .num stats.displayedFunctions),
      ("total_calls", .num stats.totalCalls),
      ("connected_functions", .num stats.connectedFunctions),
      ("isolated_functions", .num stats.isolatedFunctions),
      ("external_references", .num stats.externalReferences),
      ("files_processed", .num stats.filesProcessed)] ++
    (stats.tallies.map Tallies.fields).getD [])

/-- The written form of a report. -/
def Report.toJson (report : Report) : Json :=
  .obj [
    ("nodes", .arr (report.nodes.map GraphNode.toJson)),
    ("edges", .arr (report.edges.map Edge.toJson)),
    ("stats", report.stats.toJson),
    ("errors", if report.errors.isEmpty then .null else .strings report.errors),
    ("warning", .option .str report.warning),
    ("language", .option (fun l => .str l.displayName) report.language)]

/-- The compact text of a report. -/
def Report.render (report : Report) : String := report.toJson.render

end CallGraph
