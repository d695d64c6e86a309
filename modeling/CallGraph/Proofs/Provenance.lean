import CallGraph.Proofs.Extraction
import CallGraph.Proofs.GraphShape
import CallGraph.Proofs.Runs

/-!
# Where edges come from

An edge of a run goes back to a call in the text of a file, and every such call
between nodes that are shown is an edge (`edges_justified`).  A call passes
four joints on its way: the calls of the definitions of one name in one file
are united (`exists_entry_fileCalls`), the file becomes a report that counts
only if it can be analysed (`callsIn_reportsOn`), the reports are merged in
path order, and the graph shows a part of the outcome.  None of them loses,
invents or misplaces a call.
-/

namespace CallGraph

/-- The names at the two ends of an edge. -/
def Edge.ends (edge : Edge) : String × String := (edge.source, edge.target)

/-- A definition of `caller` in a tree calls something that may mean
`target`. -/
def Language.CallsInTree (language : Language) (t : SyntaxTree) (path : String)
    (includePrivate : Bool) (caller target : String) : Prop :=
  ∃ d ∈ language.definitions t path includePrivate, d.info.name = caller ∧
    ∃ site ∈ language.callSites t d, target ∈ site.candidates

/-- A file of a run that justifies an edge: it is of the language and not
excluded, it can be analysed, and a definition of `caller` in it calls
something that may mean `target`. -/
structure SourceFile.Justifies (grammar : Grammar) (options : Options)
    (language : Language) (file : SourceFile) (caller target : String) :
    Prop where
  of_language : language.matchesPath file.path = true
  not_excluded : options.exclusions.excludes file.path = false
  sound : fileFault? language file.text (grammar language file.text) = none
  calls : language.CallsInTree (grammar language file.text) file.path
    options.includePrivate caller target

/-- The calls of a file are those of its definitions. -/
theorem exists_entry_fileCalls {language : Language} {t : SyntaxTree}
    {definitions : List Definition} {caller target : String} :
    (∃ e ∈ (fileCalls language t definitions).entries,
        e.1 = caller ∧ target ∈ e.2) ↔
      ∃ d ∈ definitions, d.info.name = caller ∧
        ∃ site ∈ language.callSites t d, target ∈ site.candidates := by
  rw [← CallMap.mem_targetsOf, targetsOf_fileCalls, Language.mem_calledFrom]

namespace Options

variable {grammar : Grammar} {options : Options} {language : Language}
  {file : SourceFile} {files : List SourceFile}

/-- The report on a file is parsed exactly when the file has no fault. -/
theorem reportOn_parsed :
    (options.reportOn grammar language file).parsed = true ↔
      fileFault? language file.text (grammar language file.text) = none := by
  unfold reportOn analyzeText
  dsimp only
  split
  · rename_i fault hfault
    simp [FileReport.parsed, FileReport.failed, hfault]
  · rename_i hsound
    simp [FileReport.parsed, reportOfTree, hsound]

/-- The calls in the report on a sound file are those in its tree. -/
theorem exists_entry_reportOn
    (hsound : fileFault? language file.text (grammar language file.text) =
      none) {caller target : String} :
    (∃ e ∈ (options.reportOn grammar language file).calls.entries,
        e.1 = caller ∧ target ∈ e.2) ↔
      language.CallsInTree (grammar language file.text) file.path
        options.includePrivate caller target := by
  unfold reportOn analyzeText
  dsimp only
  rw [hsound]
  exact exists_entry_fileCalls

/-- The index of a run knows a call in a file exactly when a file of that path
justifies it. -/
theorem callsIn_reportsOn {path caller target : String} :
    (ProjectIndex.ofReports options.exclusions
        (options.reportsOn grammar language files)).CallsIn
          path caller target ↔
      ∃ file ∈ files, file.path = path ∧
        file.Justifies grammar options language caller target := by
  rw [ProjectIndex.callsIn_ofReports]
  constructor
  · intro h
    obtain ⟨_, hreport, hpath, hcall⟩ := h
    obtain ⟨file, hfile, hselects, hparsed, rfl⟩ :=
      mem_analyzed_reportsOn.mp hreport
    obtain ⟨hlanguage, hkept⟩ := selects_iff.mp hselects
    have hsound := reportOn_parsed.mp hparsed
    rw [reportOn_path] at hpath
    exact ⟨file, hfile, hpath, hlanguage, hkept, hsound,
      (exists_entry_reportOn hsound).mp hcall⟩
  · intro h
    obtain ⟨file, hfile, hpath, hjust⟩ := h
    have hselects := selects_iff.mpr ⟨hjust.of_language, hjust.not_excluded⟩
    refine ⟨options.reportOn grammar language file,
      mem_analyzed_reportsOn.mpr ⟨file, hfile, hselects,
        reportOn_parsed.mpr hjust.sound, rfl⟩, ?_, ?_⟩
    · rw [reportOn_path, hpath]
    · exact (exists_entry_reportOn hjust.sound).mpr hjust.calls

end Options

namespace ProjectIndex

variable {rules : ExclusionRules} {reports : List FileReport}
  {language : Language} {cap : Nat}

/-- Where a function is shown, the report has all the nodes of the graph. -/
theorem nodeIds_report {name : String}
    (h : name ∈ (ofReports rules reports).displayed cap) :
    ((ofReports rules reports).report language cap).nodes.map GraphNode.id =
      ((ofReports rules reports).displayed cap).toList ++
        ((ofReports rules reports).shownExternals language).toList := by
  rw [← nodeIds_ofReports]
  unfold report
  split
  · rename_i hempty
    have hnone : name ∈ ((ofReports rules reports).displayed cap).toList := h
    rw [displayed_of_isEmpty hempty] at hnone
    exact absurd hnone List.not_mem_nil
  · rfl

/-- The ends of the edges of a report are the known calls between its
nodes. -/
theorem mem_edgeEnds_report {caller target : String} :
    (caller, target) ∈
        ((ofReports rules reports).report language cap).edges.map Edge.ends ↔
      caller ∈
          ((ofReports rules reports).report language cap).functionIds ∧
        target ∈ ((ofReports rules reports).report language cap).nodes.map
          GraphNode.id ∧
        (ofReports rules reports).Calls caller target := by
  rw [edges_report, functionIds_report, List.mem_map]
  constructor
  · intro hedge
    obtain ⟨e, he, hends⟩ := hedge
    obtain ⟨rfl, rfl⟩ := Prod.mk.inj hends
    obtain ⟨hsource, htarget, hcalls, _⟩ := mem_edges.mp he
    refine ⟨hsource, ?_, hcalls⟩
    rw [nodeIds_report hsource]
    exact List.mem_append.mpr htarget
  · intro hcall
    obtain ⟨hsource, htarget, hcalls⟩ := hcall
    rw [nodeIds_report hsource] at htarget
    have hedge : (⟨caller, target,
        (ofReports rules reports).firstFile? caller target⟩ : Edge) ∈
          (ofReports rules reports).edges language cap :=
      mem_edges.mpr ⟨hsource, List.mem_append.mp htarget, hcalls, rfl⟩
    exact ⟨_, hedge, rfl⟩

/-- No two edges have both ends in common. -/
theorem edgeEnds_nodup (index : ProjectIndex) (language : Language)
    (cap : Nat) : ((index.edges language cap).map Edge.ends).Nodup := by
  refine List.pairwise_map.mpr ?_
  refine (edges_ascending language cap).imp fun {a b} hab hends => ?_
  obtain ⟨hsource, htarget⟩ := Prod.mk.inj hends
  rcases hab with hlt | ⟨_, hlt⟩
  · rw [hsource] at hlt
    exact String.lt_irrefl _ hlt
  · rw [htarget] at hlt
    exact String.lt_irrefl _ hlt

end ProjectIndex

/-- The index of a run knows a call exactly when some file justifies it. -/
theorem Options.calls_reportsOn {grammar : Grammar} {options : Options}
    {language : Language} {files : List SourceFile} {caller target : String} :
    (ProjectIndex.ofReports options.exclusions
        (options.reportsOn grammar language files)).Calls caller target ↔
      ∃ file ∈ files,
        file.Justifies grammar options language caller target := by
  unfold ProjectIndex.Calls
  simp only [callsIn_reportsOn]
  constructor
  · intro h
    obtain ⟨_, file, hfile, _, hjust⟩ := h
    exact ⟨file, hfile, hjust⟩
  · intro h
    obtain ⟨file, hfile, hjust⟩ := h
    exact ⟨file.path, file, hfile, rfl, hjust⟩

/-- The file of an edge has the least path among those that justify it. -/
theorem Options.firstFile_reportsOn {grammar : Grammar} {options : Options}
    {language : Language} {files : List SourceFile} {caller target : String}
    (h : (ProjectIndex.ofReports options.exclusions
      (options.reportsOn grammar language files)).Calls caller target) :
    ∃ file ∈ files, file.Justifies grammar options language caller target ∧
      (ProjectIndex.ofReports options.exclusions
        (options.reportsOn grammar language files)).firstFile? caller target =
          some file.path ∧
      ∀ other ∈ files,
        other.Justifies grammar options language caller target →
          Text.bytes file.path ≤ Text.bytes other.path := by
  obtain ⟨path, hfirst⟩ := ProjectIndex.firstFile?_isSome h
  obtain ⟨file, hfile, hpath, hjust⟩ :=
    callsIn_reportsOn.mp (ProjectIndex.callsIn_firstFile? hfirst)
  subst hpath
  refine ⟨file, hfile, hjust, hfirst, ?_⟩
  intro other hother hotherJust
  have hcalls := callsIn_reportsOn.mpr ⟨other, hother, rfl, hotherJust⟩
  exact Text.bytes_le_bytes.mpr (ProjectIndex.firstFile?_le hfirst hcalls)

/-- The edges of a report go back to files: two names are the ends of an edge
exactly when the first is a function that is shown, the second a node that is
shown, and some file justifies the edge; no two edges have the same ends; and
the file of an edge has the least path, in the order of bytes, among those that
justify it. -/
structure Report.EdgesFrom (report : Report) (files : List SourceFile)
    (Justifies : SourceFile → String → String → Prop) : Prop where
  ends_iff : ∀ caller target,
    (caller, target) ∈ report.edges.map Edge.ends ↔
      caller ∈ report.functionIds ∧
      target ∈ report.nodes.map GraphNode.id ∧
      ∃ file ∈ files, Justifies file caller target
  ends_distinct : (report.edges.map Edge.ends).Nodup
  file_least : ∀ e ∈ report.edges,
    ∃ file ∈ files, Justifies file e.source e.target ∧
      e.file = some file.path ∧
      ∀ other ∈ files, Justifies other e.source e.target →
        Text.bytes file.path ≤ Text.bytes other.path

/-- **Soundness, completeness and provenance of edges.**  A run in a language
has the edges that its files justify, and no others. -/
theorem edges_justified (grammar : Grammar) (options : Options)
    (files : List SourceFile) (language : Language)
    (h : options.languageFor (files.map (·.path)) = .ok language) :
    (analyzeFiles grammar options files).EdgesFrom files
      fun file => file.Justifies grammar options language := by
  rw [analyzeFiles_of_languageFor h]
  unfold Options.conclude
  refine ⟨?_, ?_, ?_⟩
  · intro caller target
    rw [ProjectIndex.mem_edgeEnds_report, Options.calls_reportsOn]
  · rw [ProjectIndex.edges_report]
    exact ProjectIndex.edgeEnds_nodup _ language options.cap
  · intro e he
    rw [ProjectIndex.edges_report] at he
    obtain ⟨_, _, hcalls, hfile⟩ := ProjectIndex.mem_edges.mp he
    rw [hfile]
    exact Options.firstFile_reportsOn hcalls

/-- The file with one function that calls itself justifies the edge from that
function to itself. -/
theorem selfCallFile_justifies :
    (selfCallFile "a.py").Justifies selfCallGrammar { exclusions := .none }
      .python "f" "f" where
  of_language := by decide +kernel
  not_excluded := by decide +kernel
  sound := by decide +kernel
  calls := by
    unfold Language.CallsInTree
    decide +kernel

/-- The graph of two files with a function that calls itself: one node, and one
edge, which goes back to the first file in path order. -/
theorem analyzeFiles_selfCalls :
    (analyzeFiles selfCallGrammar { exclusions := .none }
        [selfCallFile "b.py", selfCallFile "a.py"]).functionIds = ["f"] ∧
      (analyzeFiles selfCallGrammar { exclusions := .none }
        [selfCallFile "b.py", selfCallFile "a.py"]).edges =
          [⟨"f", "f", some "a.py"⟩] := by
  have hlanguage : ({ exclusions := .none } : Options).languageFor
      ["b.py", "a.py"] = .ok .python := by
    decide +kernel
  have hselected : [selfCallFile "b.py", selfCallFile "a.py"].filter
      (fun f => ({ exclusions := .none } : Options).selects .python f.path) =
        [selfCallFile "b.py", selfCallFile "a.py"] := by
    rw [List.filter_eq_self]
    decide +kernel
  rw [analyzeFiles_of_languageFor hlanguage]
  unfold Options.conclude ProjectIndex.ofReports Options.reportsOn
  rw [hselected, List.map_cons, List.map_cons, List.map_nil,
    ProjectIndex.inPathOrder_pair (by decide +kernel)]
  decide +kernel

/-- Two files with a function that calls itself, one of which is seen to
justify the edge of the report. -/
theorem edges_justified_selfCalls :
    ({ exclusions := .none } : Options).languageFor ["b.py", "a.py"] =
        .ok .python ∧
      (selfCallFile "a.py").Justifies selfCallGrammar
        { exclusions := .none } .python "f" "f" ∧
      (analyzeFiles selfCallGrammar { exclusions := .none }
        [selfCallFile "b.py", selfCallFile "a.py"]).EdgesFrom
          [selfCallFile "b.py", selfCallFile "a.py"]
          (fun file => file.Justifies selfCallGrammar { exclusions := .none }
            .python) ∧
      (analyzeFiles selfCallGrammar { exclusions := .none }
        [selfCallFile "b.py", selfCallFile "a.py"]).functionIds = ["f"] ∧
      (analyzeFiles selfCallGrammar { exclusions := .none }
        [selfCallFile "b.py", selfCallFile "a.py"]).edges =
          [⟨"f", "f", some "a.py"⟩] := by
  have hlanguage : ({ exclusions := .none } : Options).languageFor
      ["b.py", "a.py"] = .ok .python := by
    decide +kernel
  refine ⟨hlanguage, selfCallFile_justifies, ?_, analyzeFiles_selfCalls⟩
  exact edges_justified selfCallGrammar _ _ .python hlanguage

end CallGraph
