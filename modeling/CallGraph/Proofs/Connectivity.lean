import CallGraph.Proofs.Ranking

/-!
# Connected functions

A function is connected when it is an end of a call between two functions.
The graph settles this from the whole project, before it is known which
functions are shown, while a reader sees only the edges that are drawn.

`linked_iff` says what an end of a call is, without the graph.  The connected
names are these ends as soon as every caller is defined (`mem_connected_iff`):
a call from nowhere would mark its target and no edge could show why.  The two
views meet where the cap leaves all connected names
(`mem_displayed_of_connected`), because then both ends of the call are shown
and the call is an edge.  Together this is `report_countsConnected`.
-/

namespace CallGraph

namespace ProjectIndex

variable (index : ProjectIndex)

/-- The calls between defined names, file by file. -/
def internalCalls : List (String × String) :=
  index.calls.entries.flatMap fun e =>
    (e.2.toList.filter fun target =>
      e.1.2 ∈ index.registry.keys ∧ target ∈ index.registry.keys).map
        fun target => (e.1.2, target)

/-- A name is an end of a call between defined names. -/
def Linked (name : String) : Prop :=
  ∃ call ∈ index.internalCalls, call.1 = name ∨ call.2 = name

instance (name : String) : Decidable (index.Linked name) :=
  inferInstanceAs
    (Decidable (∃ call ∈ index.internalCalls, call.1 = name ∨ call.2 = name))

/-- Every caller is defined, and whatever is defined has a definition. -/
structure Grounded : Prop where
  callers_defined : ∀ e ∈ index.calls.entries, e.1.2 ∈ index.registry.keys
  definitions : ∀ e ∈ index.registry.entries, e.2 ≠ []

variable {index}

/-- The internal calls are the calls with both ends in the index. -/
theorem mem_internalCalls {caller target : String} :
    (caller, target) ∈ index.internalCalls ↔
      caller ∈ index.names ∧ target ∈ index.names ∧
        index.Calls caller target := by
  simp only [internalCalls, List.mem_flatMap, List.mem_map, List.mem_filter,
    decide_eq_true_eq, NameSet.mem_toList, mem_names, Calls, CallsIn]
  constructor
  · intro h
    obtain ⟨⟨⟨path, _⟩, targets⟩, hentry, _, ⟨htarget, hends⟩, heq⟩ := h
    obtain ⟨rfl, rfl⟩ := Prod.mk.inj heq
    exact ⟨hends.1, hends.2, path, targets, hentry, htarget⟩
  · intro h
    obtain ⟨hcaller, hdefined, path, targets, hentry, htarget⟩ := h
    exact ⟨_, hentry, target, ⟨htarget, hcaller, hdefined⟩, rfl⟩

/-- An end of a call is a defined name that calls or is called by one. -/
theorem linked_iff {name : String} :
    index.Linked name ↔
      name ∈ index.names ∧ ∃ other ∈ index.names,
        index.Calls name other ∨ index.Calls other name := by
  constructor
  · intro h
    obtain ⟨⟨caller, target⟩, hcall, hend⟩ := h
    obtain ⟨hcaller, htarget, hcalls⟩ := mem_internalCalls.mp hcall
    rcases hend with rfl | rfl
    · exact ⟨hcaller, target, htarget, Or.inl hcalls⟩
    · exact ⟨htarget, caller, hcaller, Or.inr hcalls⟩
  · intro h
    obtain ⟨hname, other, hother, hcalls | hcalls⟩ := h
    · have hcall := mem_internalCalls.mpr ⟨hname, hother, hcalls⟩
      exact ⟨(name, other), hcall, Or.inl rfl⟩
    · have hcall := mem_internalCalls.mpr ⟨hother, hname, hcalls⟩
      exact ⟨(other, name), hcall, Or.inr rfl⟩

namespace Grounded

variable (h : index.Grounded)
include h

/-- A caller is in the index, defined there as it is. -/
theorem mem_names_of_calls {caller target : String}
    (hcalls : index.Calls caller target) : caller ∈ index.names := by
  obtain ⟨path, targets, hentry, _⟩ := hcalls
  have hcaller := h.callers_defined _ hentry
  exact mem_names.mpr hcaller

/-- A name of the index has a definition. -/
theorem definitionsOf_ne_nil {name : String} (hname : name ∈ index.names) :
    index.definitionsOf name ≠ [] := by
  obtain ⟨infos, hinfos⟩ := OrderedMap.mem_keys_iff.mp (mem_names.mp hname)
  have hentry := OrderedMap.mem_entries_iff.mpr hinfos
  have hne : infos ≠ [] := h.definitions _ hentry
  unfold definitionsOf
  rw [hinfos]
  exact hne

/-- Where every caller is defined, the connected names are the ends of the
calls between defined names. -/
theorem mem_connected_iff {name : String} :
    name ∈ index.connected ↔ index.Linked name := by
  rw [mem_connected, linked_iff]
  apply and_congr_right
  intro _
  constructor
  · intro hlinked
    rcases hlinked with ⟨caller, hcalls⟩ | ⟨target, htarget, hcalls⟩
    · have hcaller := h.mem_names_of_calls hcalls
      exact ⟨caller, hcaller, Or.inr hcalls⟩
    · exact ⟨target, htarget, Or.inl hcalls⟩
  · intro hlinked
    obtain ⟨other, hother, hcalls | hcalls⟩ := hlinked
    · exact Or.inr ⟨other, hother, hcalls⟩
    · exact Or.inl ⟨other, hcalls⟩

/-- The count of the connected names is a count over the registry. -/
theorem size_connected :
    index.connected.size =
      index.registry.keys.countP fun name => index.Linked name := by
  have hnodup : (index.registry.keys.filter
      fun name => index.Linked name).Nodup :=
    List.Nodup.sublist List.filter_sublist index.registry.nodup
  have hset : index.connected =
      .ofList (index.registry.keys.filter fun name => index.Linked name) := by
    apply NameSet.ext
    intro name
    rw [h.mem_connected_iff, NameSet.mem_ofList, List.mem_filter,
      decide_eq_true_eq, ← mem_names, linked_iff]
    exact (and_iff_right_of_imp And.left).symm
  rw [hset, NameSet.size_ofList hnodup, List.countP_eq_length_filter]

end Grounded

/-- The registry has each name once, so its length counts the names. -/
theorem size_names : index.names.size = index.registry.keys.length :=
  NameSet.size_ofList index.registry.nodup

/-- The isolated functions of a report are the total less the connected ones.
-/
theorem isolated_report (index : ProjectIndex) (language : Language)
    (cap : Nat) :
    (index.report language cap).stats.isolatedFunctions =
      (index.report language cap).stats.totalFunctions -
        (index.report language cap).stats.connectedFunctions := by
  unfold report
  split
  · rfl
  · rfl

end ProjectIndex

/-- One end of an edge is the node, the other one is a function. -/
def Edge.Links (e : Edge) (report : Report) (id : String) : Prop :=
  e.source = id ∧ e.target ∈ report.functionIds ∨
    e.target = id ∧ e.source ∈ report.functionIds

/-- A report counts and marks the connected functions of an index, and where
the cap leaves all of them, its edges show why they are connected. -/
structure Report.CountsConnected (report : Report) (index : ProjectIndex)
    (cap : Nat) : Prop where
  total_count : report.stats.totalFunctions = index.registry.keys.length
  connected_count : report.stats.connectedFunctions =
    index.registry.keys.countP fun name => index.Linked name
  connected_le :
    report.stats.connectedFunctions ≤ report.stats.totalFunctions
  isolated_count : report.stats.isolatedFunctions =
    report.stats.totalFunctions - report.stats.connectedFunctions
  isolated_add_connected :
    report.stats.isolatedFunctions + report.stats.connectedFunctions =
      report.stats.totalFunctions
  marked_iff : ∀ node, .function node ∈ report.nodes →
    (node.connected = true ↔ index.Linked node.id)
  marked_iff_edge :
    report.stats.totalFunctions ≤ cap ∨
        report.stats.connectedFunctions ≤ cap →
      ∀ node, .function node ∈ report.nodes →
        (node.connected = true ↔ ∃ e ∈ report.edges, e.Links report node.id)

namespace ProjectIndex

variable {index : ProjectIndex} {language : Language} {cap : Nat}

/-- The mark on a function node says whether the index holds the function to be
connected. -/
theorem connected_eq_true_iff {node : FunctionNode}
    (hnode : .function node ∈ (index.report language cap).nodes) :
    node.connected = true ↔ node.id ∈ index.connected := by
  obtain ⟨_, _, _, hmark, _⟩ := function_mem_report.mp hnode
  rw [hmark, decide_eq_true_eq]

namespace Grounded

variable (h : index.Grounded)
include h

/-- The function nodes of a report are the displayed names. -/
theorem mem_functionIds_iff {name : String} :
    name ∈ (index.report language cap).functionIds ↔
      name ∈ index.displayed cap := by
  rw [mem_functionIds_report]
  apply and_iff_left_of_imp
  intro hshown
  have hname := mem_names_of_mem_displayed hshown
  exact h.definitionsOf_ne_nil hname

/-- A call between connected names that the cap leaves is an edge between
function nodes. -/
theorem exists_edge (language : Language) {caller target : String}
    (hfits : index.names.size ≤ cap ∨ index.connected.size ≤ cap)
    (hcaller : caller ∈ index.names) (htarget : target ∈ index.names)
    (hcalls : index.Calls caller target) :
    ∃ e ∈ (index.report language cap).edges,
      e.source = caller ∧ e.target = target ∧
        caller ∈ (index.report language cap).functionIds ∧
        target ∈ (index.report language cap).functionIds := by
  obtain ⟨hsource, hcalled⟩ := hcalls.connected hcaller htarget
  have hsource := mem_displayed_of_connected hfits hsource
  have hcalled := mem_displayed_of_connected hfits hcalled
  refine ⟨⟨caller, target, index.firstFile? caller target⟩, ?_, rfl, rfl,
    h.mem_functionIds_iff.mpr hsource, h.mem_functionIds_iff.mpr hcalled⟩
  rw [edges_report]
  exact mem_edges.mpr ⟨hsource, Or.inl hcalled, hcalls, rfl⟩

/-- The function nodes at the ends of an edge are connected. -/
theorem linked_of_edge {e : Edge} {id : String}
    (he : e ∈ (index.report language cap).edges)
    (hid : id ∈ index.names)
    (hlinks : e.Links (index.report language cap) id) :
    index.Linked id := by
  rw [edges_report] at he
  obtain ⟨_, _, hcalls, _⟩ := mem_edges.mp he
  rw [linked_iff]
  rcases hlinks with ⟨rfl, hother⟩ | ⟨rfl, hother⟩
  · have hshown := h.mem_functionIds_iff.mp hother
    have hdefined := mem_names_of_mem_displayed hshown
    exact ⟨hid, e.target, hdefined, Or.inl hcalls⟩
  · have hshown := h.mem_functionIds_iff.mp hother
    have hdefined := mem_names_of_mem_displayed hshown
    exact ⟨hid, e.source, hdefined, Or.inr hcalls⟩

/-- Where the cap leaves all connected names, a name is an end of a call
exactly if it is an end of an edge between functions. -/
theorem linked_iff_edge {id : String}
    (hfits : index.names.size ≤ cap ∨ index.connected.size ≤ cap)
    (hid : id ∈ index.names) :
    index.Linked id ↔
      ∃ e ∈ (index.report language cap).edges,
        e.Links (index.report language cap) id := by
  constructor
  · intro hlinked
    obtain ⟨_, other, hother, hcalls | hcalls⟩ := linked_iff.mp hlinked
    · obtain ⟨e, he, hsource, htarget, _, hshown⟩ :=
        h.exists_edge language hfits hid hother hcalls
      exact ⟨e, he, Or.inl ⟨hsource, htarget ▸ hshown⟩⟩
    · obtain ⟨e, he, hsource, htarget, hshown, _⟩ :=
        h.exists_edge language hfits hother hid hcalls
      exact ⟨e, he, Or.inr ⟨htarget, hsource ▸ hshown⟩⟩
  · intro hedge
    obtain ⟨e, he, hlinks⟩ := hedge
    exact h.linked_of_edge he hid hlinks

end Grounded

/-- **Connectivity.**  A report counts the names that are an end of a call
between defined names, marks exactly their nodes as connected, and where the
cap leaves all of them, its edges between functions end at these nodes and at
no others. -/
theorem report_countsConnected (index : ProjectIndex) (h : index.Grounded)
    (language : Language) (cap : Nat) :
    (index.report language cap).CountsConnected index cap := by
  obtain ⟨htotal, hconnected, _, _⟩ := stats_report_counts index language cap
  have hisolated := isolated_report index language cap
  have hle : index.connected.size ≤ index.names.size := size_connected_le
  constructor
  case total_count => rw [htotal, size_names]
  case connected_count => rw [hconnected, h.size_connected]
  case connected_le =>
    rw [htotal, hconnected]
    exact hle
  case isolated_count => exact hisolated
  case isolated_add_connected =>
    rw [hisolated, htotal, hconnected]
    exact Nat.sub_add_cancel hle
  case marked_iff =>
    intro node hnode
    rw [connected_eq_true_iff hnode, h.mem_connected_iff]
  case marked_iff_edge =>
    intro hfits node hnode
    rw [htotal, hconnected] at hfits
    have hshown := (function_mem_report.mp hnode).1
    have hname := mem_names_of_mem_displayed hshown
    rw [connected_eq_true_iff hnode, h.mem_connected_iff,
      h.linked_iff_edge hfits hname]

/-- Two functions whose calls are split over two files, one of them to itself,
and a third one that only calls an undefined name. -/
def splitCallsIndex : ProjectIndex where
  registry := ⟨[
    ("f", [{ name := "f", filePath := "a.py", line := 1 },
      { name := "f", filePath := "b.py", line := 1 }]),
    ("g", [{ name := "g", filePath := "a.py", line := 3 }]),
    ("h", [{ name := "h", filePath := "b.py", line := 3 }])], by decide⟩
  calls := ⟨[
    (("a.py", "f"), .ofList ["g", "print"]),
    (("b.py", "f"), .ofList ["f"]),
    (("b.py", "h"), .ofList ["requests.get"])], by decide⟩
  filesProcessed := 2

/-- Two of the three functions are connected, under a cap of two. -/
theorem report_countsConnected_splitCalls :
    splitCallsIndex.Grounded ∧
      (splitCallsIndex.registry.keys.countP
        fun name => splitCallsIndex.Linked name) = 2 ∧
      (splitCallsIndex.report .python 2).CountsConnected
        splitCallsIndex 2 := by
  have hgrounded : splitCallsIndex.Grounded := ⟨by decide, by decide⟩
  refine ⟨hgrounded, by decide +kernel, ?_⟩
  exact report_countsConnected splitCallsIndex hgrounded .python 2

end ProjectIndex

end CallGraph
