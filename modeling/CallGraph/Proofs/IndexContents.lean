import CallGraph.Proofs.ByteOrder
import CallGraph.Proofs.GraphEdges
import CallGraph.Proofs.RunOrder
import Mathlib.Algebra.Ring.Nat

/-!
# An index accounts for its reports

Merging is a loop over the reports in path order that adds to two maps, to
three counters and to a list of messages, and that leaves early at a failed
report.  This file says what is there at the end (`ofReports_indexes`): every
definition and every call of every analysed report once, under its key, every
failure in words, and counts that add up.

One merge either adds a whole report or one message (`merge_of_parsed`,
`merge_of_failed`), and what a run of merges adds up to follows by induction
(`foldl_merge_counts`).  That no definition is lost or doubled when many files
and names meet in one registry is `allDefinitions_perm`.
-/

namespace CallGraph.ProjectIndex

/-- The reports in ascending byte order of their paths, where reports of one
path keep their order. -/
structure StableByPath (reports sorted : List FileReport) : Prop where
  perm : sorted.Perm reports
  ascending : sorted.Pairwise fun a b => Text.bytes a.path ≤ Text.bytes b.path
  stable : ∀ path, (sorted.filter fun r => r.path = path) =
    reports.filter fun r => r.path = path

/-- The order of the reports is the stable one by path. -/
theorem inPathOrder_stableByPath (reports : List FileReport) :
    StableByPath reports (inPathOrder reports) where
  perm := List.mergeSort_perm reports _
  ascending := (inPathOrder_ascending reports).imp
    Text.bytes_le_bytes.mpr
  stable := filter_inPathOrder reports

/-- What was accepted are the reports that the rules keep, in path order. -/
theorem accepted_stableByPath (rules : ExclusionRules)
    (reports : List FileReport) :
    StableByPath (reports.filter fun r => !rules.excludes r.path)
      (accepted rules reports) := by
  unfold accepted
  rw [← inPathOrder_filter]
  exact inPathOrder_stableByPath _

/-- The message of a failed report. -/
def message? (report : FileReport) : Option String :=
  report.failure.map Failure.message

/-- What a run of merges adds to the counters and messages of an index. -/
theorem foldl_merge_counts (reports : List FileReport)
    (index : ProjectIndex) :
    (reports.foldl merge index).filesProcessed =
        index.filesProcessed + (reports.filter FileReport.parsed).length ∧
      (reports.foldl merge index).filesFailed =
        index.filesFailed +
          (reports.filter fun r => !r.parsed).length ∧
      (reports.foldl merge index).errors =
        index.errors ++ reports.filterMap message? ∧
      (reports.foldl merge index).outline =
        ((reports.filter FileReport.parsed).map (·.outline)).foldl addOutline
          index.outline := by
  induction reports generalizing index with
  | nil => simp
  | cons report reports ih =>
      obtain ⟨hprocessed, hfailed, herrors, houtline⟩ :=
        ih (index.merge report)
      rw [List.foldl_cons, hprocessed, hfailed, herrors, houtline]
      cases hfailure : report.failure with
      | none =>
          have hparsed : report.parsed = true := by
            simp [FileReport.parsed, hfailure]
          rw [merge_of_parsed index hfailure]
          dsimp only
          refine ⟨?_, ?_, ?_, ?_⟩
          · rw [List.filter_cons_of_pos hparsed, List.length_cons]
            omega
          · rw [List.filter_cons_of_neg (by simp [hparsed])]
          · simp [message?, hfailure]
          · rw [List.filter_cons_of_pos hparsed, List.map_cons,
              List.foldl_cons]
      | some failure =>
          have hparsed : report.parsed = false := by
            simp [FileReport.parsed, hfailure]
          rw [merge_of_failed index hfailure]
          dsimp only
          refine ⟨?_, ?_, ?_, ?_⟩
          · rw [List.filter_cons_of_neg (by simp [hparsed])]
          · rw [List.filter_cons_of_pos (by simp [hparsed]), List.length_cons]
            omega
          · simp [message?, hfailure]
          · rw [List.filter_cons_of_neg (by simp [hparsed])]

/-- Outlines are counted list by list. -/
theorem foldl_addOutline (outlines : List Outline) (totals : OutlineTotals) :
    outlines.foldl addOutline totals =
      { classes :=
          totals.classes + (outlines.map (·.classes.length)).sum
        namespaces :=
          totals.namespaces + (outlines.map (·.namespaces.length)).sum
        includes :=
          totals.includes + (outlines.map (·.includes.length)).sum
        imports :=
          totals.imports + (outlines.map (·.imports.length)).sum } := by
  induction outlines generalizing totals with
  | nil => rfl
  | cons outline outlines ih =>
      rw [List.foldl_cons, ih]
      simp only [addOutline, List.map_cons, List.sum_cons, Nat.add_assoc]

section

variable {rules : ExclusionRules} {reports : List FileReport}

/-- An index counts the files that were analyzed. -/
theorem filesProcessed_ofReports :
    (ofReports rules reports).filesProcessed =
      (analyzed rules reports).length :=
  (foldl_merge_counts (accepted rules reports) {}).1.trans (Nat.zero_add _)

/-- The messages of an index are those of the accepted reports, in their order.
-/
theorem errors_ofReports :
    (ofReports rules reports).errors =
      (accepted rules reports).filterMap message? :=
  (foldl_merge_counts (accepted rules reports) {}).2.2.1

/-- The outline of an index is added up from those of the analyzed files. -/
theorem outline_ofReports :
    (ofReports rules reports).outline =
      ((analyzed rules reports).map (·.outline)).foldl addOutline {} :=
  (foldl_merge_counts (accepted rules reports) {}).2.2.2

end

variable (rules : ExclusionRules) (reports : List FileReport)

/-- The pairs of all reports hold their functions, in order. -/
theorem definitionPairs_flatten (reports : List FileReport) :
    ((reports.flatMap definitionPairs).map Prod.snd).flatten =
      reports.flatMap (·.functions) := by
  rw [List.map_flatMap, ← List.flatMap_id, List.flatMap_assoc]
  congr 1
  funext report
  simp [definitionPairs, List.flatMap_map]

/-- The registry holds the definitions of all analysed reports, each once. -/
theorem allDefinitions_perm :
    (ofReports rules reports).allDefinitions.Perm
      ((analyzed rules reports).flatMap (·.functions)) := by
  unfold allDefinitions
  rw [registry_ofReports, ← definitionPairs_flatten]
  exact OrderedMap.values_gather_perm .empty _

/-- An index accounts for the accepted reports and, among them, the analysed
ones, both in path order.  Its registry has the names of the analysed ones in
order of first occurrence, each with all its definitions in the order of the
files; its calls are those of the analysed ones, united where path and caller
agree; its messages are those of the failed ones, in order; and its counts are
numbers of reports and sums over them. -/
structure Indexes (index : ProjectIndex)
    (accepted analyzed : List FileReport) : Prop where
  registry_keys : index.registry.keys =
    ((analyzed.flatMap (·.functions)).map (·.name)).eraseDups
  registry_values : ∀ name ∈ index.registry.keys,
    index.registry.get? name = some (analyzed.flatMap fun r =>
      r.functions.filter fun f => f.name = name)
  call_keys : ∀ path caller, (path, caller) ∈ index.calls.keys ↔
    ∃ r ∈ analyzed, r.path = path ∧
      ∃ targets, r.calls.get? caller = some targets
  call_values : ∀ path caller targets,
    index.calls.get? (path, caller) = some targets →
      targets = NameSet.unions ((analyzed.filter fun r => r.path = path).map
        (·.calls.targetsOf caller))
  messages : index.errors = accepted.filterMap message?
  processed : index.filesProcessed = analyzed.length
  failed : index.filesFailed = accepted.length - analyzed.length
  outline_totals : index.outline =
    { classes := (analyzed.map (·.outline.classes.length)).sum
      namespaces := (analyzed.map (·.outline.namespaces.length)).sum
      includes := (analyzed.map (·.outline.includes.length)).sum
      imports := (analyzed.map (·.outline.imports.length)).sum }
  definitions : index.totalDefinitions =
    (analyzed.map (·.functions.length)).sum

/-- The registry lists the defined names in the order of their first
definitions. -/
theorem registry_keys_ofReports :
    (ofReports rules reports).registry.keys =
      (((analyzed rules reports).flatMap (·.functions)).map
        (·.name)).eraseDups := by
  rw [registry_ofReports, OrderedMap.keys_gather, List.map_flatMap,
    List.map_flatMap]
  simp [definitionPairs, Function.comp_def]

/-- Under each name stand its definitions, file after file. -/
theorem registry_get?_ofReports {name : String}
    (h : name ∈ (ofReports rules reports).registry.keys) :
    (ofReports rules reports).registry.get? name =
      some ((analyzed rules reports).flatMap fun r =>
        r.functions.filter fun f => f.name = name) := by
  obtain ⟨infos, hinfos⟩ := OrderedMap.mem_keys_iff.mp h
  rw [← definitionsOf_ofReports, definitionsOf, hinfos, Option.getD_some]

/-- The calls of an index have a key for each caller of each analyzed file. -/
theorem mem_calls_keys_ofReports {path caller : String} :
    (path, caller) ∈ (ofReports rules reports).calls.keys ↔
      ∃ r ∈ analyzed rules reports, r.path = path ∧
        ∃ targets, r.calls.get? caller = some targets := by
  rw [calls_ofReports, OrderedMap.mem_keys_gather]
  simp only [List.mem_flatMap, callPairs, List.mem_map]
  constructor
  · intro h
    obtain ⟨_, ⟨r, hr, e, he, rfl⟩, hkey⟩ := h
    obtain ⟨hpath, rfl⟩ := Prod.mk.inj hkey
    exact ⟨r, hr, hpath, e.2, CallMap.mem_entries_iff.mp he⟩
  · intro h
    obtain ⟨r, hr, rfl, targets, hget⟩ := h
    exact ⟨_, ⟨r, hr, _, CallMap.mem_entries_iff.mpr hget, rfl⟩, rfl⟩

/-- Under a file and a caller stands all that the reports on that path list for
the caller. -/
theorem calls_get?_ofReports {path caller : String} {targets : NameSet}
    (h : (ofReports rules reports).calls.get? (path, caller) =
      some targets) :
    targets = NameSet.unions (((analyzed rules reports).filter
      fun r => r.path = path).map (·.calls.targetsOf caller)) := by
  apply NameSet.ext
  intro target
  have hcalls : (ofReports rules reports).CallsIn path caller target ↔ _ :=
    callsIn_ofReports
  rw [callsIn_iff, h, Option.getD_some] at hcalls
  simp only [hcalls, NameSet.mem_unions, List.mem_map, List.mem_filter,
    decide_eq_true_eq]
  constructor
  · intro hknown
    obtain ⟨r, hr, hpath, hentry⟩ := hknown
    exact ⟨_, ⟨r, ⟨hr, hpath⟩, rfl⟩, CallMap.mem_targetsOf.mpr hentry⟩
  · intro hknown
    obtain ⟨_, ⟨r, ⟨hr, hpath⟩, rfl⟩, htarget⟩ := hknown
    exact ⟨r, hr, hpath, CallMap.mem_targetsOf.mp htarget⟩

/-- **Accounting.**  The index of any reports, under any rules, accounts for
the reports that the rules keep, in path order. -/
theorem ofReports_indexes (rules : ExclusionRules)
    (reports : List FileReport) :
    StableByPath (reports.filter fun r => !rules.excludes r.path)
        (accepted rules reports) ∧
      (ofReports rules reports).Indexes (accepted rules reports)
        ((accepted rules reports).filter FileReport.parsed) := by
  refine ⟨accepted_stableByPath rules reports, ?_⟩
  have hmerged : (accepted rules reports).foldl merge {} =
      ofReports rules reports := rfl
  have hcounts := foldl_merge_counts (accepted rules reports) {}
  rw [hmerged, foldl_addOutline] at hcounts
  obtain ⟨hprocessed, hfailed, herrors, houtline⟩ := hcounts
  constructor
  case registry_keys => exact registry_keys_ofReports rules reports
  case registry_values =>
    intro name hname
    exact registry_get?_ofReports rules reports hname
  case call_keys =>
    intro path caller
    exact mem_calls_keys_ofReports rules reports
  case call_values =>
    intro path caller targets hget
    exact calls_get?_ofReports rules reports hget
  case messages => exact herrors.trans (List.nil_append _)
  case processed => exact hprocessed.trans (Nat.zero_add _)
  case failed =>
    have hsplit := List.length_eq_length_filter_add FileReport.parsed
      (l := accepted rules reports)
    have hcount : (ofReports rules reports).filesFailed =
        ((accepted rules reports).filter fun r => !r.parsed).length :=
      hfailed.trans (Nat.zero_add _)
    omega
  case outline_totals =>
    simpa [Function.comp_def] using houtline
  case definitions =>
    have hlength := (allDefinitions_perm rules reports).length_eq
    rwa [List.length_flatMap] at hlength

end CallGraph.ProjectIndex
