import CallGraph.Proofs.ByteOrder
import CallGraph.Proofs.GraphEdges
import Mathlib.Data.List.Basic

/-!
# The shape of a graph

Whatever reports a project has, its graph is well formed (`report_wellFormed`):
ids are distinct, functions come before external names and both ascend, no
external name is defined, no edge hangs in the air, the edges ascend, and the
counts and caps hold.

Edges and counts are computed from the set of names that are shown, but a name
without a definition has no node.  The two views agree because merging never
leaves a name without a definition (`definitionsOf_ne_nil`), so that the ids of
the function nodes are exactly the names that are shown
(`functionIds_report`).
-/

namespace CallGraph

namespace NameSet

/-- Placing a name in a sorted list adds at most one element. -/
theorem length_place_le (x : String) (ys : List String) :
    (place x ys).length ≤ ys.length + 1 := by
  induction ys with
  | nil => simp [place]
  | cons y ys ih =>
      rw [place]
      split
      · simp
      · split
        · simp
        · simpa using ih

/-- A set of names has at most as many members as the list it was made of. -/
theorem size_ofList_le (xs : List String) : (ofList xs).size ≤ xs.length := by
  induction xs with
  | nil => exact Nat.le_refl 0
  | cons x xs ih =>
      have hplace := length_place_le x (ofList xs).toList
      exact Nat.le_trans hplace (Nat.succ_le_succ ih)

theorem mem_of_mem_take {n : Nat} {s : NameSet} {x : String}
    (h : x ∈ s.take n) : x ∈ s :=
  List.mem_of_mem_take h

theorem size_take_le (n : Nat) (s : NameSet) : (s.take n).size ≤ n :=
  List.length_take_le n s.toList

/-- A set of names lists each member once. -/
theorem nodup (s : NameSet) : s.toList.Nodup := by
  refine s.ascending.imp fun {a b} hlt heq => ?_
  subst heq
  exact String.lt_irrefl a hlt

/-- A set of names lists its members in the order of their bytes. -/
theorem bytes_ascending (s : NameSet) :
    s.toList.Pairwise fun a b => Text.bytes a < Text.bytes b :=
  s.ascending.imp Text.bytes_lt_of_lt

end NameSet

namespace ProjectIndex

variable {index : ProjectIndex} {language : Language} {cap : Nat}

/-- A connected name is in the index. -/
theorem mem_names_of_mem_connected {name : String}
    (h : name ∈ index.connected) : name ∈ index.names :=
  (NameSet.mem_filter.mp h).1

theorem mem_names_of_mem_best {limit : Nat} {name : String}
    (h : name ∈ index.best limit) : name ∈ index.names := by
  obtain ⟨scored, hscored, rfl⟩ := List.mem_map.mp (NameSet.mem_ofList.mp h)
  have hmem := List.mem_mergeSort.mp (List.mem_of_mem_take hscored)
  obtain ⟨name, hname, rfl⟩ := List.mem_map.mp hmem
  exact hname

/-- Only defined names are shown as functions. -/
theorem mem_names_of_mem_displayed {name : String}
    (h : name ∈ index.displayed cap) : name ∈ index.names := by
  unfold displayed at h
  split at h
  · exact h
  · split at h
    · exact mem_names_of_mem_connected h
    · exact mem_names_of_mem_best h

/-- A cap that leaves room for all names, or for the connected ones, hides no
connected name. -/
theorem mem_displayed_of_connected {name : String}
    (hfits : index.names.size ≤ cap ∨ index.connected.size ≤ cap)
    (hname : name ∈ index.connected) : name ∈ index.displayed cap := by
  by_cases hall : index.names.size ≤ cap
  · rw [displayed, if_pos hall]
    exact mem_names_of_mem_connected hname
  · have hlinked : index.connected.size ≤ cap := hfits.resolve_left hall
    rw [displayed, if_neg hall, if_pos hlinked]
    exact hname

/-- No more names are shown than the cap allows. -/
theorem size_displayed_le : (index.displayed cap).size ≤ cap := by
  unfold displayed
  split
  · assumption
  · split
    · assumption
    · refine Nat.le_trans (NameSet.size_ofList_le _) ?_
      rw [List.length_map]
      exact List.length_take_le cap _

/-- An external name is not in the index. -/
theorem not_mem_names_of_mem_shownExternals {name : String}
    (h : name ∈ index.shownExternals language) : name ∉ index.names := by
  have hexternal := (NameSet.mem_filter.mp (NameSet.mem_of_mem_take h)).2
  simp only [Bool.and_eq_true, Bool.not_eq_true', decide_eq_false_iff_not]
    at hexternal
  exact hexternal.1

/-- The function nodes of a graph. -/
def functionNodes (index : ProjectIndex) (language : Language) (cap : Nat) :
    List FunctionNode :=
  (index.displayed cap).toList.filterMap
    (index.functionNode? language index.connected)

/-- The external nodes of a graph. -/
def externalNodes (index : ProjectIndex) (language : Language) (cap : Nat) :
    List ExternalNode :=
  (index.shownExternals language).toList.map fun name =>
    ⟨name, name ∈ NameSet.ofList ((index.edges language cap).map (·.target))⟩

/-- The nodes are the function nodes and, after them, the external ones. -/
theorem nodes_eq (language : Language) (cap : Nat) :
    index.nodes language cap =
      (index.functionNodes language cap).map .function ++
        (index.externalNodes language cap).map .external := by
  simp only [nodes, functionNodes, externalNodes, List.map_map,
    Function.comp_def]

/-- The nodes that are not external are the function nodes. -/
theorem nodes_filter_function (language : Language) (cap : Nat) :
    (index.nodes language cap).filter (fun n => !n.isExternal) =
      (index.functionNodes language cap).map .function := by
  rw [nodes_eq, List.filter_append, List.filter_eq_self.mpr,
    List.filter_eq_nil_iff.mpr, List.append_nil]
  · simp [GraphNode.isExternal]
  · simp [GraphNode.isExternal]

theorem nodes_filter_external (language : Language) (cap : Nat) :
    (index.nodes language cap).filter GraphNode.isExternal =
      (index.externalNodes language cap).map .external := by
  rw [nodes_eq, List.filter_append, List.filter_eq_nil_iff.mpr,
    List.filter_eq_self.mpr, List.nil_append]
  · simp [GraphNode.isExternal]
  · simp [GraphNode.isExternal]

/-- The external nodes carry the shown external names, in order. -/
theorem externalNodes_ids (language : Language) (cap : Nat) :
    (index.externalNodes language cap).map ExternalNode.id =
      (index.shownExternals language).toList := by
  simp [externalNodes, Function.comp_def]

/-- A name with a definition has a function node of that name. -/
theorem functionNode?_id {connected : NameSet} {name : String}
    (h : index.definitionsOf name ≠ []) :
    (index.functionNode? language connected name).map FunctionNode.id =
      some name := by
  obtain ⟨info, rest, hdefinitions⟩ := List.exists_cons_of_ne_nil h
  simp [functionNode?, primary?, hdefinitions]

/-- Where every name that is shown has a definition, the ids of the function
nodes are the names that are shown. -/
theorem functionNodes_ids (language : Language) (cap : Nat)
    (hdefined : ∀ name ∈ index.displayed cap, index.definitionsOf name ≠ []) :
    (index.functionNodes language cap).map FunctionNode.id =
      (index.displayed cap).toList := by
  unfold functionNodes
  rw [List.map_filterMap]
  calc (index.displayed cap).toList.filterMap _
      = (index.displayed cap).toList.filterMap some :=
        List.filterMap_congr fun name hname =>
          functionNode?_id (hdefined name hname)
    _ = (index.displayed cap).toList := List.filterMap_some

/-- An index without names shows nothing and draws nothing. -/
theorem displayed_of_isEmpty (h : index.names.isEmpty) :
    (index.displayed cap).toList = [] := by
  have hnil : index.names.toList = [] := List.isEmpty_iff.mp h
  have hle : index.names.size ≤ cap := by
    rw [NameSet.size, hnil]
    exact Nat.zero_le cap
  rw [displayed, if_pos hle, hnil]

/-- An index with no function has no edges. -/
theorem edges_of_isEmpty (h : index.names.isEmpty) :
    index.edges language cap = [] := by
  refine List.eq_nil_iff_forall_not_mem.mpr fun e he => ?_
  have hsource : e.source ∈ (index.displayed cap).toList :=
    (mem_edges.mp he).1
  rw [displayed_of_isEmpty h] at hsource
  exact List.not_mem_nil hsource

/-- A report has the edges of its index, an empty one included. -/
theorem edges_report :
    (index.report language cap).edges = index.edges language cap := by
  unfold report
  split
  · rename_i hempty
    exact (edges_of_isEmpty hempty).symm
  · rfl

/-- What a function node says: its name, its primary definition, its language,
whether it is connected and how often it is defined. -/
theorem functionNode?_eq_some_iff {connected : NameSet} {name : String}
    {node : FunctionNode} :
    index.functionNode? language connected name = some node ↔
      node.id = name ∧ index.primary? name = some node.info ∧
        node.language = language ∧ node.connected = decide (name ∈ connected) ∧
        node.definitions = index.occurrenceCount name := by
  unfold functionNode?
  rw [Option.map_eq_some_iff]
  constructor
  · intro h
    obtain ⟨info, hinfo, rfl⟩ := h
    exact ⟨rfl, hinfo, rfl, rfl, rfl⟩
  · intro h
    obtain ⟨rfl, hinfo, hlanguage, hconnected, hcount⟩ := h
    refine ⟨node.info, hinfo, ?_⟩
    rw [← hlanguage, ← hconnected, ← hcount]

/-- **Function nodes.**  A function is shown as a node exactly when its name is
shown and has a definition, and the node tells what the index knows of the
name. -/
theorem function_mem_report {node : FunctionNode} :
    .function node ∈ (index.report language cap).nodes ↔
      node.id ∈ index.displayed cap ∧
        index.primary? node.id = some node.info ∧
        node.language = language ∧
        node.connected = decide (node.id ∈ index.connected) ∧
        node.definitions = index.occurrenceCount node.id := by
  have hnodes : .function node ∈ (index.report language cap).nodes ↔
      node ∈ index.functionNodes language cap := by
    unfold report
    split
    · rename_i hempty
      unfold functionNodes
      rw [displayed_of_isEmpty hempty]
      exact iff_of_false List.not_mem_nil List.not_mem_nil
    · simp [nodes_eq]
  rw [hnodes]
  simp only [functionNodes, List.mem_filterMap, functionNode?_eq_some_iff,
    NameSet.mem_toList]
  constructor
  · intro h
    obtain ⟨_, hname, rfl, hnode⟩ := h
    exact ⟨hname, hnode⟩
  · intro h
    obtain ⟨hname, hnode⟩ := h
    exact ⟨node.id, hname, rfl, hnode⟩

/-- A function node stands for a displayed name. -/
theorem mem_displayed_of_mem_functionIds {name : String}
    (h : name ∈ (index.report language cap).functionIds) :
    name ∈ index.displayed cap := by
  obtain ⟨node, hnode, rfl⟩ := List.mem_map.mp h
  obtain ⟨hmem, hfunction⟩ := List.mem_filter.mp hnode
  cases node with
  | function node => exact (function_mem_report.mp hmem).1
  | external node => exact absurd hfunction (by simp [GraphNode.isExternal])

variable {rules : ExclusionRules} {reports : List FileReport}

/-- In an index made of reports every displayed name has its function node, in
order. -/
theorem functionNodes_ids_ofReports (language : Language) (cap : Nat) :
    ((ofReports rules reports).functionNodes language cap).map
      FunctionNode.id = ((ofReports rules reports).displayed cap).toList :=
  functionNodes_ids language cap fun _ hname =>
    definitionsOf_ne_nil (mem_names_of_mem_displayed hname)

/-- **No name without a node.**  The function nodes of a report are the names
that are shown. -/
theorem functionIds_report (rules : ExclusionRules)
    (reports : List FileReport) (language : Language) (cap : Nat) :
    ((ofReports rules reports).report language cap).functionIds =
      ((ofReports rules reports).displayed cap).toList := by
  unfold report Report.functionIds
  split
  · rename_i hempty
    exact (displayed_of_isEmpty hempty).symm
  · rw [nodes_filter_function, List.map_map, ← functionNodes_ids_ofReports]
    rfl

/-- The names of the external nodes are the shown external names, in order. -/
theorem externalIds_nodes (index : ProjectIndex) (language : Language)
    (cap : Nat) :
    ((index.nodes language cap).filter GraphNode.isExternal).map
      GraphNode.id = (index.shownExternals language).toList := by
  rw [nodes_filter_external, List.map_map, ← externalNodes_ids language cap]
  rfl

/-- The ids of a graph: the functions that are shown, then the external
names. -/
theorem nodeIds_ofReports (language : Language) (cap : Nat) :
    ((ofReports rules reports).nodes language cap).map GraphNode.id =
      ((ofReports rules reports).displayed cap).toList ++
        ((ofReports rules reports).shownExternals language).toList := by
  rw [nodes_eq, List.map_append, List.map_map, List.map_map,
    ← functionNodes_ids_ofReports, ← externalNodes_ids language cap]
  rfl

end ProjectIndex

/-- What makes the graph of a report well formed, given the defined names and
the cap on functions. -/
structure Report.WellFormed (report : Report) (defined : List String)
    (cap : Nat) : Prop where
  ids_distinct : (report.nodes.map GraphNode.id).Nodup
  functions_first : report.nodes =
    report.nodes.filter (fun n => !n.isExternal) ++
      report.nodes.filter GraphNode.isExternal
  functions_ascending : report.functionIds.Pairwise fun a b =>
    Text.bytes a < Text.bytes b
  externals_ascending : report.externalIds.Pairwise fun a b =>
    Text.bytes a < Text.bytes b
  externals_undefined : ∀ id ∈ report.externalIds, id ∉ defined
  edges_closed : ∀ e ∈ report.edges,
    e.source ∈ report.functionIds ∧
      e.target ∈ report.nodes.map GraphNode.id
  edges_ascending : report.edges.Pairwise fun a b =>
    Text.bytes a.source < Text.bytes b.source ∨
      a.source = b.source ∧ Text.bytes a.target < Text.bytes b.target
  displayed_count :
    report.functionIds.length = report.stats.displayedFunctions
  displayed_cap : report.functionIds.length ≤ cap
  external_cap : report.externalIds.length ≤ 20
  call_count : report.stats.totalCalls = report.edges.length

/-- A report without a graph is well formed. -/
theorem Report.wellFormed_empty (language : Option Language)
    (errors defined : List String) (cap : Nat) :
    (Report.empty language errors).WellFormed defined cap where
  ids_distinct := List.nodup_nil
  functions_first := rfl
  functions_ascending := List.Pairwise.nil
  externals_ascending := List.Pairwise.nil
  externals_undefined := by
    intro id hid
    exact absurd hid List.not_mem_nil
  edges_closed := by
    intro e he
    exact absurd he List.not_mem_nil
  edges_ascending := List.Pairwise.nil
  displayed_count := rfl
  displayed_cap := Nat.zero_le cap
  external_cap := Nat.zero_le 20
  call_count := rfl

namespace ProjectIndex

variable {rules : ExclusionRules} {reports : List FileReport}

/-- Functions and external names do not share ids. -/
theorem nodeIds_nodup (language : Language) (cap : Nat) :
    (((ofReports rules reports).nodes language cap).map
      GraphNode.id).Nodup := by
  rw [nodeIds_ofReports, List.nodup_append]
  refine ⟨NameSet.nodup _, NameSet.nodup _, ?_⟩
  intro function hfunction external hexternal heq
  subst heq
  exact not_mem_names_of_mem_shownExternals hexternal
    (mem_names_of_mem_displayed hfunction)

/-- **Well-formed graphs.**  The report on any reports, under any rules and
any cap, has a well-formed graph. -/
theorem report_wellFormed (rules : ExclusionRules) (reports : List FileReport)
    (language : Language) (cap : Nat) :
    ((ofReports rules reports).report language cap).WellFormed
      (ofReports rules reports).registry.keys cap := by
  have hfunctions := functionIds_report rules reports language cap
  unfold report at hfunctions ⊢
  split
  · exact Report.wellFormed_empty _ _ _ cap
  · rename_i hnames
    rw [if_neg hnames] at hfunctions
    have hexternals := externalIds_nodes (ofReports rules reports) language cap
    constructor
    case ids_distinct => exact nodeIds_nodup language cap
    case functions_first =>
      dsimp only
      rw [nodes_filter_function, nodes_filter_external, nodes_eq]
    case functions_ascending =>
      rw [hfunctions]
      exact NameSet.bytes_ascending _
    case externals_ascending =>
      dsimp only [Report.externalIds]
      rw [hexternals]
      exact NameSet.bytes_ascending _
    case externals_undefined =>
      intro id hid
      dsimp only [Report.externalIds] at hid
      rw [hexternals] at hid
      exact fun hdefined =>
        not_mem_names_of_mem_shownExternals hid (mem_names.mpr hdefined)
    case edges_closed =>
      intro e he
      obtain ⟨hsource, htarget, _, _⟩ := mem_edges.mp he
      dsimp only
      rw [hfunctions, nodeIds_ofReports]
      exact ⟨hsource, List.mem_append.mpr htarget⟩
    case edges_ascending =>
      refine (edges_ascending language cap).imp fun {a b} hab => ?_
      rwa [Text.bytes_lt_bytes, Text.bytes_lt_bytes]
    case displayed_count =>
      rw [hfunctions]
      rfl
    case displayed_cap =>
      rw [hfunctions]
      exact size_displayed_le
    case external_cap =>
      dsimp only [Report.externalIds]
      rw [hexternals]
      exact NameSet.size_take_le externalLimit _
    case call_count => rfl

end ProjectIndex

end CallGraph
