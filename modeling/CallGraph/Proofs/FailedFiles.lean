import CallGraph.Proofs.IndexContents
import CallGraph.Proofs.PrimaryDefinitions

/-!
# Files that cannot be analysed

A file that fails adds its message to a report and changes nothing else
(`analyzeFiles_insert_failed`), and a report accounts for every file that was
selected: either it is counted or its message is there
(`analyzeFiles_accounts`).

What an index knows of functions and calls comes from the analysed reports
(`ofReports_sameFindings`), and a graph reads nothing else
(`SameFindings.report`).  The messages are those of the failed reports in path
order.  Sorting by path commutes with leaving reports out
(`inPathOrder_filter`), so that one more report takes one place in the sorted
list, wherever it comes in (`inPathOrder_insert`).
-/

namespace CallGraph

/-- A list that ascends by a key has the items of lesser keys first, then those
of the key, then those of greater keys.  The first item falls into one of the
three groups, and the groups before it are empty. -/
theorem eq_groups_of_ascending {α : Type} (key : α → String) {xs : List α}
    (h : xs.Pairwise fun a b => key a ≤ key b) (k : String) :
    xs = (xs.filter fun a => key a < k) ++
      ((xs.filter fun a => key a = k) ++ xs.filter fun a => k < key a) := by
  induction xs with
  | nil => rfl
  | cons x xs ih =>
      obtain ⟨hleast, htail⟩ := List.pairwise_cons.mp h
      have hrest := ih htail
      by_cases hlt : key x < k
      · have hne : key x ≠ k := fun heq => String.lt_irrefl k (heq ▸ hlt)
        have hnot : ¬ k < key x := fun hgt =>
          String.lt_irrefl k (String.lt_trans hgt hlt)
        rw [List.filter_cons_of_pos (by exact decide_eq_true hlt),
          List.filter_cons_of_neg (by exact mt of_decide_eq_true hne),
          List.filter_cons_of_neg (by exact mt of_decide_eq_true hnot)]
        exact congrArg (x :: ·) hrest
      · have hle : k ≤ key x := String.not_lt.mp hlt
        have hnone : xs.filter (fun a => key a < k) = [] := by
          rw [List.filter_eq_nil_iff]
          intro a ha hless
          exact String.not_lt.mpr (String.le_trans hle (hleast a ha))
            (of_decide_eq_true hless)
        rw [hnone, List.nil_append] at hrest
        rw [List.filter_cons_of_neg (by exact mt of_decide_eq_true hlt),
          hnone, List.nil_append]
        by_cases heq : key x = k
        · have hnot : ¬ k < key x := heq ▸ String.lt_irrefl k
          rw [List.filter_cons_of_pos (by exact decide_eq_true heq),
            List.filter_cons_of_neg (by exact mt of_decide_eq_true hnot)]
          exact congrArg (x :: ·) hrest
        · have hgt : k < key x :=
            String.not_le.mp fun hge => heq (String.le_antisymm hge hle)
          have hnoneEq : xs.filter (fun a => key a = k) = [] := by
            rw [List.filter_eq_nil_iff]
            intro a ha hkey
            have hge := hleast a ha
            rw [of_decide_eq_true hkey] at hge
            exact String.not_le.mpr hgt hge
          rw [hnoneEq, List.nil_append] at hrest
          rw [List.filter_cons_of_neg (by exact mt of_decide_eq_true heq),
            List.filter_cons_of_pos (by exact decide_eq_true hgt), hnoneEq,
            List.nil_append]
          exact congrArg (x :: ·) hrest

namespace ProjectIndex

/-- One more report takes one place in the path order, and the others keep
theirs.  It goes behind the reports of its path that came before it. -/
theorem inPathOrder_insert (before after : List FileReport)
    (report : FileReport) :
    ∃ earlier later,
      inPathOrder (before ++ after) = earlier ++ later ∧
        inPathOrder (before ++ report :: after) =
          earlier ++ report :: later := by
  have hothers : ∀ keep : FileReport → Bool, keep report = false →
      (inPathOrder (before ++ report :: after)).filter keep =
        (inPathOrder (before ++ after)).filter keep := by
    intro keep hreport
    rw [← inPathOrder_filter, ← inPathOrder_filter, List.filter_append,
      List.filter_append, List.filter_cons_of_neg (by simp [hreport])]
  refine ⟨((inPathOrder (before ++ after)).filter
      fun r => r.path < report.path) ++
        before.filter fun r => r.path = report.path,
    (after.filter fun r => r.path = report.path) ++
      (inPathOrder (before ++ after)).filter
        fun r => report.path < r.path, ?_, ?_⟩
  · refine (eq_groups_of_ascending FileReport.path
      (inPathOrder_ascending (before ++ after)) report.path).trans ?_
    rw [filter_inPathOrder, List.filter_append]
    simp only [List.append_assoc]
  · refine (eq_groups_of_ascending FileReport.path
      (inPathOrder_ascending (before ++ report :: after))
      report.path).trans ?_
    rw [filter_inPathOrder, List.filter_append,
      List.filter_cons_of_pos (by simp), hothers _ (by simp),
      hothers _ (by simp)]
    simp only [List.append_assoc, List.cons_append]

variable {rules : ExclusionRules} {reports others : List FileReport}

/-- One more report that is not excluded stands among the accepted ones where
it stood before, and changes nothing around it. -/
theorem accepted_insert (before after : List FileReport)
    {report : FileReport} (h : rules.excludes report.path = false) :
    ∃ earlier later,
      accepted rules (before ++ after) = earlier ++ later ∧
        accepted rules (before ++ report :: after) =
          earlier ++ report :: later := by
  obtain ⟨earlier, later, hold, hnew⟩ :=
    inPathOrder_insert before after report
  unfold accepted
  refine ⟨earlier.filter fun r => !rules.excludes r.path,
    later.filter fun r => !rules.excludes r.path, ?_, ?_⟩
  · rw [hold, List.filter_append]
  · rw [hnew, List.filter_append, List.filter_cons_of_pos (by simp [h])]

/-- Two indexes know the same of the files that were analysed. -/
structure SameFindings (index other : ProjectIndex) : Prop where
  registry : index.registry = other.registry
  calls : index.calls = other.calls
  processed : index.filesProcessed = other.filesProcessed
  outline : index.outline = other.outline

/-- The findings of an index come from the analysed reports. -/
theorem ofReports_sameFindings
    (h : analyzed rules reports = analyzed rules others) :
    (ofReports rules reports).SameFindings (ofReports rules others) where
  registry := by rw [registry_ofReports, registry_ofReports, h]
  calls := by rw [calls_ofReports, calls_ofReports, h]
  processed := by
    rw [filesProcessed_ofReports, filesProcessed_ofReports, h]
  outline := by rw [outline_ofReports, outline_ofReports, h]

/-- A failed report adds its message to an index, at one place, and nothing to
the findings. -/
theorem ofReports_insert_failed (before after : List FileReport)
    {report : FileReport} {failure : Failure}
    (hkept : rules.excludes report.path = false)
    (hfails : report.failure = some failure) :
    (ofReports rules (before ++ report :: after)).SameFindings
        (ofReports rules (before ++ after)) ∧
      ∃ earlier later,
        (ofReports rules (before ++ after)).errors = earlier ++ later ∧
          (ofReports rules (before ++ report :: after)).errors =
            earlier ++ failure.message :: later := by
  obtain ⟨earlier, later, hold, hnew⟩ :=
    accepted_insert before after hkept
  constructor
  · apply ofReports_sameFindings
    unfold analyzed
    rw [hnew, hold, List.filter_append, List.filter_append,
      List.filter_cons_of_neg (by simp [FileReport.parsed, hfails])]
  · refine ⟨earlier.filterMap message?, later.filterMap message?, ?_, ?_⟩
    · rw [errors_ofReports, hold, List.filterMap_append]
    · have hmessage : message? report = some failure.message := by
        rw [message?, hfails, Option.map_some]
      rw [errors_ofReports, hnew, List.filterMap_append,
        List.filterMap_cons_some hmessage]

namespace SameFindings

variable {index other : ProjectIndex} (h : index.SameFindings other)
include h

/-- Indexes of the same graph hold the same names. -/
theorem names : index.names = other.names := by
  unfold ProjectIndex.names
  rw [h.registry]

/-- **Where graphs come from.**  Indexes with the same findings have the same
graph. -/
theorem report (language : Language) (cap : Nat) :
    (index.report language cap).SameGraph (other.report language cap) := by
  have hnames := h.names
  obtain ⟨registry, calls, errors, processed, failed, outline⟩ := index
  obtain ⟨_, _, otherErrors, _, otherFailed, _⟩ := other
  obtain ⟨rfl, rfl, rfl, rfl⟩ := h
  unfold ProjectIndex.report
  rw [hnames]
  split
  · exact ⟨rfl, rfl, rfl, rfl, rfl⟩
  · exact ⟨rfl, rfl, rfl, rfl, rfl⟩

end SameFindings

/-- The messages of a report are those of its index, with one more when there
are no functions. -/
theorem errors_report (index : ProjectIndex) (language : Language)
    (cap : Nat) :
    (index.report language cap).errors =
      index.errors ++
        if index.names.isEmpty then
          [(Failure.noFunctions index.filesProcessed).message]
        else [] := by
  unfold report
  split
  · rfl
  · exact (List.append_nil _).symm

end ProjectIndex

/-- **Failure isolation.**  In a run whose language is given, one more file
that is selected but cannot be analysed leaves the graph, the counts and the
warning as they are.  When another file is selected, its message comes in at
one place among the messages, and they do not change otherwise. -/
theorem analyzeFiles_insert_failed (grammar : Grammar) (options : Options)
    (language : Language) (before after : List SourceFile)
    (file : SourceFile) (failure : Failure)
    (hlanguage : options.language = some language)
    (hselects : options.selects language file.path = true)
    (hfails : (options.reportOn grammar language file).failure =
      some failure) :
    (analyzeFiles grammar options (before ++ file :: after)).SameGraph
        (analyzeFiles grammar options (before ++ after)) ∧
      ((∃ other ∈ before ++ after,
          options.selects language other.path = true) →
        ∃ earlier later,
          (analyzeFiles grammar options (before ++ after)).errors =
              earlier ++ later ∧
            (analyzeFiles grammar options (before ++ file :: after)).errors =
              earlier ++ failure.message :: later) := by
  have hkept : options.exclusions.excludes
      (options.reportOn grammar language file).path = false := by
    rw [Options.reportOn_path]
    exact (Options.selects_iff.mp hselects).2
  obtain ⟨hfindings, earlier, later, hold, hnew⟩ :=
    ProjectIndex.ofReports_insert_failed
      (options.reportsOn grammar language before)
      (options.reportsOn grammar language after) hkept hfails
  rw [← Options.reportsOn_insert before after hselects,
    ← Options.reportsOn_append] at hfindings
  rw [← Options.reportsOn_append] at hold
  rw [← Options.reportsOn_insert before after hselects] at hnew
  constructor
  · have hgraph := hfindings.report language options.cap
    exact (analyzeFiles_sameGraph grammar hlanguage _).trans
      (hgraph.trans (analyzeFiles_sameGraph grammar hlanguage _).symm)
  · intro hother
    have hmore : ∃ other ∈ before ++ file :: after,
        options.selects language other.path = true :=
      ⟨file, by simp, hselects⟩
    rw [analyzeFiles_of_language hlanguage hother,
      analyzeFiles_of_language hlanguage hmore]
    unfold Options.conclude
    rw [ProjectIndex.errors_report, ProjectIndex.errors_report, hold, hnew,
      hfindings.names, hfindings.processed, List.append_assoc,
      List.append_assoc, List.cons_append]
    exact ⟨earlier, _, rfl, rfl⟩

/-- A run over Python files without exclusions. -/
def pythonRun : Options := { language := some .python, exclusions := .none }

/-- A file whose text is not text. -/
def binaryFile (path : String) : SourceFile := ⟨path, "\x00"⟩

/-- The binary file fails, with its path in the failure. -/
theorem failure_binaryFile :
    (pythonRun.reportOn selfCallGrammar .python (binaryFile "a.py")).failure =
      some (.parse "a.py" "binary or non-text content") := by
  decide +kernel

/-- A file that fails between two others, with the path of one of them. -/
theorem analyzeFiles_insert_failed_samePath :
    pythonRun.selects .python "a.py" = true ∧
      (analyzeFiles selfCallGrammar pythonRun
        ([selfCallFile "b.py"] ++ binaryFile "a.py" ::
          [selfCallFile "a.py"])).SameGraph
        (analyzeFiles selfCallGrammar pythonRun
          ([selfCallFile "b.py"] ++ [selfCallFile "a.py"])) ∧
      ∃ earlier later,
        (analyzeFiles selfCallGrammar pythonRun
          ([selfCallFile "b.py"] ++ [selfCallFile "a.py"])).errors =
            earlier ++ later ∧
        (analyzeFiles selfCallGrammar pythonRun
          ([selfCallFile "b.py"] ++ binaryFile "a.py" ::
            [selfCallFile "a.py"])).errors =
            earlier ++ "a.py: binary or non-text content" :: later := by
  have hselects : pythonRun.selects .python "a.py" = true := by
    decide +kernel
  obtain ⟨hgraph, herrors⟩ := analyzeFiles_insert_failed selfCallGrammar
    pythonRun .python [selfCallFile "b.py"] [selfCallFile "a.py"]
    (binaryFile "a.py") _ rfl hselects failure_binaryFile
  exact ⟨hselects, hgraph,
    herrors ⟨selfCallFile "a.py", by simp, hselects⟩⟩

namespace ProjectIndex

/-- Only failed reports have messages. -/
theorem filterMap_message? (reports : List FileReport) :
    reports.filterMap message? =
      (reports.filter fun r => !r.parsed).filterMap message? := by
  rw [List.filterMap_filter]
  refine List.filterMap_congr fun r _ => ?_
  cases hfailure : r.failure with
  | none => simp [message?, FileReport.parsed, hfailure]
  | some failure => simp [message?, FileReport.parsed, hfailure]

end ProjectIndex

/-- A report without a graph: no nodes, no edges, no warning, and every count
is zero. -/
structure Report.IsBlank (report : Report) : Prop where
  nodes : report.nodes = []
  edges : report.edges = []
  stats : ∃ tallies, report.stats = { tallies := some tallies } ∧
    ∀ counter ∈ tallies.counters, counter.2 = 0
  warning : report.warning = none

/-- The report of a run with nothing to analyze is blank. -/
theorem Report.isBlank_empty (language : Language) (errors : List String) :
    (Report.empty (some language) errors).IsBlank where
  nodes := rfl
  edges := rfl
  stats := by
    refine ⟨.zero language, rfl, ?_⟩
    cases language <;> decide
  warning := rfl

namespace Options

variable {grammar : Grammar} {options : Options} {language : Language}
  {files : List SourceFile}

/-- The files that a run selects. -/
def selected (options : Options) (language : Language)
    (files : List SourceFile) : List SourceFile :=
  files.filter fun f => options.selects language f.path

/-- The files that a run selects but cannot analyse. -/
def failing (options : Options) (grammar : Grammar) (language : Language)
    (files : List SourceFile) : List SourceFile :=
  (options.selected language files).filter fun f =>
    (options.reportOn grammar language f).failure.isSome

theorem reportsOn_eq_map :
    options.reportsOn grammar language files =
      (options.selected language files).map
        (options.reportOn grammar language) := rfl

/-- The failed reports are those on the failing files. -/
theorem filter_failed_reportsOn :
    ((options.reportsOn grammar language files).filter fun r => !r.parsed) =
      (options.failing grammar language files).map
        (options.reportOn grammar language) := by
  rw [reportsOn_eq_map, List.filter_map]
  unfold failing
  congr 1
  refine List.filter_congr fun f _ => ?_
  simp [FileReport.parsed]

/-- The rules keep all the reports of a run. -/
theorem accepted_reportsOn :
    ProjectIndex.accepted options.exclusions
        (options.reportsOn grammar language files) =
      ProjectIndex.inPathOrder (options.reportsOn grammar language files) := by
  unfold ProjectIndex.accepted
  rw [← ProjectIndex.inPathOrder_filter]
  congr 1
  rw [List.filter_eq_self]
  intro r hr
  obtain ⟨f, hf, rfl⟩ := List.mem_map.mp hr
  rw [reportOn_path, (selects_iff.mp (List.mem_filter.mp hf).2).2]
  rfl

/-- The messages of a run are those of the files that fail, in path order. -/
theorem errors_reportsOn :
    (ProjectIndex.ofReports options.exclusions
        (options.reportsOn grammar language files)).errors =
      (ProjectIndex.inPathOrder
        ((options.failing grammar language files).map
          (options.reportOn grammar language))).filterMap
            ProjectIndex.message? := by
  rw [ProjectIndex.errors_ofReports, accepted_reportsOn,
    ProjectIndex.filterMap_message?, ← ProjectIndex.inPathOrder_filter,
    filter_failed_reportsOn]

/-- The files that a run counts and those that fail are all that it
selects. -/
theorem filesProcessed_reportsOn :
    (ProjectIndex.ofReports options.exclusions
        (options.reportsOn grammar language files)).filesProcessed +
        (options.failing grammar language files).length =
      (options.selected language files).length := by
  have hsplit := List.length_eq_length_filter_add FileReport.parsed
    (l := ProjectIndex.inPathOrder
      (options.reportsOn grammar language files))
  rw [← ProjectIndex.inPathOrder_filter, ← ProjectIndex.inPathOrder_filter,
    filter_failed_reportsOn] at hsplit
  rw [ProjectIndex.filesProcessed_ofReports, ProjectIndex.analyzed,
    accepted_reportsOn, ← ProjectIndex.inPathOrder_filter]
  simp only [ProjectIndex.inPathOrder, List.length_mergeSort,
    List.length_map] at hsplit ⊢
  rw [reportsOn_eq_map, List.length_map] at hsplit
  exact hsplit.symm

end Options

/-- **Every selected file is accounted for.**  The files that a run selects are
those it counts and those that fail.  If some file defines a function, the
messages are those of the files that fail, in path order, where files of one
path keep their order.  If none does, the report has no graph, and one more
message says how many files were analysed. -/
theorem analyzeFiles_accounts (grammar : Grammar) (options : Options)
    (files : List SourceFile) (language : Language)
    (h : options.languageFor (files.map (·.path)) = .ok language) :
    ∃ failed processed,
      ProjectIndex.StableByPath
          ((options.failing grammar language files).map
            (options.reportOn grammar language)) failed ∧
        processed + (options.failing grammar language files).length =
          (options.selected language files).length ∧
        ((∃ file ∈ files, ∃ name,
            file.Defines grammar options language name) →
          (analyzeFiles grammar options files).stats.filesProcessed =
              processed ∧
            (analyzeFiles grammar options files).errors =
              failed.filterMap ProjectIndex.message?) ∧
        ((∀ file ∈ files, ∀ name,
            ¬ file.Defines grammar options language name) →
          (analyzeFiles grammar options files).IsBlank ∧
            (analyzeFiles grammar options files).errors =
              failed.filterMap ProjectIndex.message? ++
                [s!"No functions found in {processed} analyzed file(s)"]) := by
  refine ⟨_, _, ProjectIndex.inPathOrder_stableByPath _,
    Options.filesProcessed_reportsOn, ?_, ?_⟩
  · intro hdefined
    obtain ⟨file, hfile, name, hdefines⟩ := hdefined
    have hname := Options.mem_names_reportsOn.mpr ⟨file, hfile, hdefines⟩
    have hnonempty : ¬ (ProjectIndex.ofReports options.exclusions
        (options.reportsOn grammar language files)).names.isEmpty := by
      intro hempty
      rw [NameSet.isEmpty_iff, NameSet.eq_empty_iff] at hempty
      exact hempty name hname
    rw [analyzeFiles_of_languageFor h, ← Options.errors_reportsOn]
    unfold Options.conclude ProjectIndex.report
    rw [if_neg hnonempty]
    exact ⟨rfl, rfl⟩
  · intro hundefined
    have hempty : (ProjectIndex.ofReports options.exclusions
        (options.reportsOn grammar language files)).names.isEmpty := by
      rw [NameSet.isEmpty_iff, NameSet.eq_empty_iff]
      intro name hname
      obtain ⟨file, hfile, hdefines⟩ :=
        Options.mem_names_reportsOn.mp hname
      exact hundefined file hfile name hdefines
    rw [analyzeFiles_of_languageFor h, ← Options.errors_reportsOn]
    unfold Options.conclude ProjectIndex.report
    rw [if_pos hempty]
    exact ⟨Report.isBlank_empty language _, rfl⟩

/-- One file that is counted and one that fails. -/
theorem analyzeFiles_accounts_binary :
    pythonRun.languageFor ["b.py", "a.py"] = .ok .python ∧
      (selfCallFile "b.py").Defines selfCallGrammar pythonRun .python "f" ∧
      (analyzeFiles selfCallGrammar pythonRun
        [selfCallFile "b.py", binaryFile "a.py"]).stats.filesProcessed = 1 ∧
      (analyzeFiles selfCallGrammar pythonRun
        [selfCallFile "b.py", binaryFile "a.py"]).errors =
          ["a.py: binary or non-text content"] := by
  have hlanguage : pythonRun.languageFor ["b.py", "a.py"] = .ok .python := by
    decide +kernel
  have hdefines : (selfCallFile "b.py").Defines selfCallGrammar pythonRun
      .python "f" := by
    decide +kernel
  have hselected : pythonRun.selected .python
      [selfCallFile "b.py", binaryFile "a.py"] =
        [selfCallFile "b.py", binaryFile "a.py"] := by
    rw [Options.selected, List.filter_eq_self]
    decide +kernel
  have hsound : (pythonRun.reportOn selfCallGrammar .python
      (selfCallFile "b.py")).failure.isSome = false := by
    decide +kernel
  have hfailing : pythonRun.failing selfCallGrammar .python
      [selfCallFile "b.py", binaryFile "a.py"] = [binaryFile "a.py"] := by
    rw [Options.failing, hselected]
    simp [hsound, failure_binaryFile]
  obtain ⟨failed, processed, hstable, hcount, hdefined, _⟩ :=
    analyzeFiles_accounts selfCallGrammar pythonRun
      [selfCallFile "b.py", binaryFile "a.py"] .python hlanguage
  obtain ⟨hprocessed, herrors⟩ := hdefined
    ⟨selfCallFile "b.py", List.mem_cons_self, "f", hdefines⟩
  rw [hfailing] at hstable hcount
  rw [hselected] at hcount
  have hone : processed = 1 := by simpa using hcount
  have hfailed := List.perm_singleton.mp hstable.perm
  refine ⟨hlanguage, hdefines, hprocessed.trans hone, ?_⟩
  rw [herrors, hfailed]
  decide +kernel

end CallGraph
