import CallGraph.Proofs.GraphShape

/-!
# What a cap can change

Which functions are shown under a cap is decided in three ways that have
little in common: all names, the connected names, or the best ones by score.
The best names may include isolated ones, which are hidden again where the
connected names are shown.

A connected name is never hidden by a greater cap (`displayed_of_connected`):
the best names under one limit are among the best under a greater limit, and
the other two choices have all connected names.  Both ends of a call between
defined names are connected, so no edge between functions is lost either.
External names and counts over the whole project do not look at the cap.
Together this is `report_under_caps`.
-/

namespace CallGraph

namespace ProjectIndex

variable {index : ProjectIndex} {language : Language} {tight wide : Nat}

/-- A wider limit keeps every name that a tighter one keeps. -/
theorem mem_best_of_le (h : tight ≤ wide) {name : String}
    (hname : name ∈ index.best tight) : name ∈ index.best wide := by
  obtain ⟨scored, hscored, rfl⟩ :=
    List.mem_map.mp (NameSet.mem_ofList.mp hname)
  have hwide : scored ∈ (index.scored.mergeSort preferred).take wide :=
    List.take_subset_take_left _ h hscored
  exact NameSet.mem_ofList.mpr (List.mem_map_of_mem hwide)

/-- **Nested choices.**  A connected name that is shown under a cap is shown
under every greater one. -/
theorem displayed_of_connected (h : tight ≤ wide) {name : String}
    (hshown : name ∈ index.displayed tight)
    (hconnected : name ∈ index.connected) : name ∈ index.displayed wide := by
  by_cases hfits : index.names.size ≤ wide ∨ index.connected.size ≤ wide
  · exact mem_displayed_of_connected hfits hconnected
  · obtain ⟨hall, hlinked⟩ := not_or.mp hfits
    rw [displayed, if_neg (by omega), if_neg (by omega)] at hshown
    rw [displayed, if_neg hall, if_neg hlinked]
    exact mem_best_of_le h hshown

end ProjectIndex

/-- What stays when more functions may be shown: language, messages, external
names and all counts but those of what is shown; the connected functions; and
the edges between functions, with their files. -/
structure Report.WidensTo (tight wide : Report) : Prop where
  language : wide.language = tight.language
  errors : wide.errors = tight.errors
  externals : wide.externalIds = tight.externalIds
  stats : wide.stats =
    { tight.stats with
      displayedFunctions := wide.stats.displayedFunctions
      totalCalls := wide.stats.totalCalls }
  connected_shown : ∀ node, .function node ∈ tight.nodes →
    node.connected = true → .function node ∈ wide.nodes
  edges_kept : ∀ e ∈ tight.edges, e.source ∈ tight.functionIds →
    e.target ∈ tight.functionIds → e ∈ wide.edges

namespace ProjectIndex

/-- What a report says of the whole project does not depend on the cap. -/
theorem report_apart_from_cap (index : ProjectIndex) (language : Language)
    (tight wide : Nat) :
    (index.report language wide).language =
        (index.report language tight).language ∧
      (index.report language wide).errors =
        (index.report language tight).errors ∧
      (index.report language wide).externalIds =
        (index.report language tight).externalIds ∧
      (index.report language wide).stats =
        { (index.report language tight).stats with
          displayedFunctions :=
            (index.report language wide).stats.displayedFunctions
          totalCalls := (index.report language wide).stats.totalCalls } := by
  unfold report Report.externalIds
  split
  · exact ⟨rfl, rfl, rfl, rfl⟩
  · dsimp only
    rw [externalIds_nodes, externalIds_nodes]
    exact ⟨rfl, rfl, rfl, rfl⟩

/-- **Caps.**  A greater cap keeps everything that a report says of the whole
project, every connected function that is shown and every edge between
functions. -/
theorem report_under_caps (index : ProjectIndex) (language : Language)
    (tight wide : Nat) (h : tight ≤ wide) :
    (index.report language tight).WidensTo
      (index.report language wide) := by
  obtain ⟨hlanguage, herrors, hexternals, hstats⟩ :=
    report_apart_from_cap index language tight wide
  refine ⟨hlanguage, herrors, hexternals, hstats, ?_, ?_⟩
  · intro node hnode hmarked
    obtain ⟨hshown, hinfo, hlanguage, hconnected, hcount⟩ :=
      function_mem_report.mp hnode
    have hlinked : node.id ∈ index.connected :=
      of_decide_eq_true (hconnected.symm.trans hmarked)
    exact function_mem_report.mpr ⟨displayed_of_connected h hshown hlinked,
      hinfo, hlanguage, hconnected, hcount⟩
  · intro e he hsource htarget
    have hsource := mem_displayed_of_mem_functionIds hsource
    have htarget := mem_displayed_of_mem_functionIds htarget
    rw [edges_report] at he ⊢
    obtain ⟨_, _, hcalls, hfile⟩ := mem_edges.mp he
    obtain ⟨hcaller, hcalled⟩ := hcalls.connected
      (mem_names_of_mem_displayed hsource)
      (mem_names_of_mem_displayed htarget)
    exact mem_edges.mpr ⟨displayed_of_connected h hsource hcaller,
      Or.inl (displayed_of_connected h htarget hcalled), hcalls, hfile⟩

/-- A report on a file in which `f` calls `g` and nothing calls `h`. -/
def linkedReport : FileReport where
  path := "a.py"
  language := .python
  functions := [
    { name := "f", filePath := "a.py", line := 1 },
    { name := "g", filePath := "a.py", line := 3 },
    { name := "h", filePath := "a.py", line := 5 }]
  calls := .ofPairs [("f", .ofList ["g"])]

/-- Three functions of which two are connected, under a cap that shows these
and under one that shows all. -/
theorem report_under_caps_linked :
    2 ≤ 3 ∧
      ⟨"f", "g", some "a.py"⟩ ∈
        ((ofReports .none [linkedReport]).report .python 2).edges ∧
      ((ofReports .none [linkedReport]).report .python 2).functionIds =
        ["f", "g"] ∧
      ((ofReports .none [linkedReport]).report .python 2).WidensTo
        ((ofReports .none [linkedReport]).report .python 3) := by
  have hcaps : 2 ≤ 3 := by decide
  have hsorted : inPathOrder [linkedReport] = [linkedReport] :=
    List.mergeSort_singleton linkedReport
  refine ⟨hcaps, ?_, ?_, report_under_caps _ .python 2 3 hcaps⟩
  · unfold ofReports
    rw [hsorted]
    decide +kernel
  · unfold ofReports
    rw [hsorted]
    decide +kernel

end ProjectIndex

end CallGraph
