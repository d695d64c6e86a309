import CallGraph.ProjectIndex
import CallGraph.Proofs.Gathering

/-!
# What an index holds

Merging a report gathers its definitions into the registry and its calls into
the call map (`merge_of_parsed`); a failed report leaves both alone
(`merge_of_failed`).  Over all reports, the registry and the call map are
gathered from the accepted and analysed reports in path order
(`registry_ofReports`, `calls_ofReports`), and everything that is asked of an
index later is read off these two equations:

* a name is defined when some such report defines it, and then it has at least
  one definition;
* a call is known when some such report has it;
* the entries of the call map come in the order of their paths.
-/

namespace CallGraph.ProjectIndex

/-- The reports that the rules keep, in path order. -/
def accepted (rules : ExclusionRules) (reports : List FileReport) :
    List FileReport :=
  (inPathOrder reports).filter fun r => !rules.excludes r.path

/-- The reports that the rules keep of files that were analysed. -/
def analyzed (rules : ExclusionRules) (reports : List FileReport) :
    List FileReport :=
  (accepted rules reports).filter FileReport.parsed

/-- What a report adds to the registry. -/
def definitionPairs (report : FileReport) :
    List (String × List FunctionInfo) :=
  report.functions.map fun f => (f.name, [f])

/-- What a report adds to the call map. -/
def callPairs (report : FileReport) : List ((String × String) × NameSet) :=
  report.calls.entries.map fun e => ((report.path, e.1), e.2)

/-- A registry with more definitions. -/
abbrev gatherDefinitions (registry : OrderedMap String (List FunctionInfo))
    (pairs : List (String × List FunctionInfo)) :
    OrderedMap String (List FunctionInfo) :=
  registry.gather [] (· ++ ·) pairs

/-- A call map with more calls. -/
abbrev gatherCalls (calls : OrderedMap (String × String) NameSet)
    (pairs : List ((String × String) × NameSet)) :
    OrderedMap (String × String) NameSet :=
  calls.gather .empty NameSet.union pairs

/-- Adding functions one by one touches the registry only, which gathers them.
-/
theorem foldl_addDefinitions (functions : List FunctionInfo)
    (index : ProjectIndex) :
    functions.foldl (fun i f => i.addDefinitions f.name [f]) index =
      { index with
        registry := gatherDefinitions index.registry
          (functions.map fun f => (f.name, [f])) } := by
  induction functions generalizing index with
  | nil => rfl
  | cons f functions ih => exact ih (index.addDefinitions f.name [f])

/-- Adding the calls of a file one by one touches the calls only. -/
theorem foldl_addCalls (path : String) (entries : List (String × NameSet))
    (index : ProjectIndex) :
    entries.foldl
        (fun i (caller, targets) => i.addCalls path caller targets) index =
      { index with
        calls := gatherCalls index.calls
          (entries.map fun e => ((path, e.1), e.2)) } := by
  induction entries generalizing index with
  | nil => rfl
  | cons e entries ih => exact ih (index.addCalls path e.1 e.2)

/-- What merging an analysed report changes. -/
theorem merge_of_parsed (index : ProjectIndex) {report : FileReport}
    (h : report.failure = none) :
    index.merge report =
      { index with
        filesProcessed := index.filesProcessed + 1
        outline := addOutline index.outline report.outline
        registry := gatherDefinitions index.registry (definitionPairs report)
        calls := gatherCalls index.calls (callPairs report) } := by
  unfold merge
  rw [h]
  dsimp only
  rw [foldl_addDefinitions, foldl_addCalls]
  rfl

/-- What merging a failed report changes. -/
theorem merge_of_failed (index : ProjectIndex) {report : FileReport}
    {failure : Failure} (h : report.failure = some failure) :
    index.merge report =
      { index with
        filesFailed := index.filesFailed + 1
        errors := index.errors ++ [failure.message] } := by
  unfold merge
  rw [h]

/-- Merging many reports gathers from those that were analysed. -/
theorem foldl_merge (reports : List FileReport) (index : ProjectIndex) :
    (reports.foldl merge index).registry =
        gatherDefinitions index.registry
          ((reports.filter FileReport.parsed).flatMap definitionPairs) ∧
      (reports.foldl merge index).calls =
        gatherCalls index.calls
          ((reports.filter FileReport.parsed).flatMap callPairs) := by
  induction reports generalizing index with
  | nil => exact ⟨rfl, rfl⟩
  | cons report reports ih =>
      obtain ⟨hregistry, hcalls⟩ := ih (index.merge report)
      rw [List.foldl_cons, hregistry, hcalls]
      cases hfailure : report.failure with
      | none =>
          rw [merge_of_parsed index hfailure,
            List.filter_cons_of_pos (by simp [FileReport.parsed, hfailure]),
            List.flatMap_cons, List.flatMap_cons]
          exact ⟨(OrderedMap.gather_append _ _ _).symm,
            (OrderedMap.gather_append _ _ _).symm⟩
      | some failure =>
          rw [merge_of_failed index hfailure,
            List.filter_cons_of_neg (by simp [FileReport.parsed, hfailure])]
          exact ⟨rfl, rfl⟩

variable (rules : ExclusionRules) (reports : List FileReport)

/-- The registry of an index gathers the definitions of the analyzed reports.
-/
theorem registry_ofReports :
    (ofReports rules reports).registry =
      gatherDefinitions .empty
        ((analyzed rules reports).flatMap definitionPairs) :=
  (foldl_merge (accepted rules reports) {}).1

/-- The calls of an index gather those of the analyzed reports. -/
theorem calls_ofReports :
    (ofReports rules reports).calls =
      gatherCalls .empty ((analyzed rules reports).flatMap callPairs) :=
  (foldl_merge (accepted rules reports) {}).2

/-- The names of an index are the keys of its registry. -/
theorem mem_names {index : ProjectIndex} {name : String} :
    name ∈ index.names ↔ name ∈ index.registry.keys :=
  NameSet.mem_ofList

variable {rules reports}

/-- A name is defined when an analysed report defines it. -/
theorem mem_names_ofReports {name : String} :
    name ∈ (ofReports rules reports).names ↔
      ∃ r ∈ analyzed rules reports, ∃ f ∈ r.functions, f.name = name := by
  rw [mem_names, registry_ofReports, OrderedMap.mem_keys_gather]
  simp only [List.mem_flatMap, definitionPairs, List.mem_map]
  constructor
  · intro h
    obtain ⟨_, ⟨r, hr, f, hf, rfl⟩, hname⟩ := h
    exact ⟨r, hr, f, hf, hname⟩
  · intro h
    obtain ⟨r, hr, f, hf, hname⟩ := h
    exact ⟨_, ⟨r, hr, f, hf, rfl⟩, hname⟩

theorem foldl_append_eq_flatten {α : Type} (xss : List (List α))
    (start : List α) : xss.foldl (· ++ ·) start = start ++ xss.flatten := by
  induction xss generalizing start with
  | nil => simp
  | cons xs xss ih => simp [ih]

/-- The definitions of a name in a report, read off its pairs. -/
theorem definitionPairs_named (report : FileReport) (name : String) :
    (((definitionPairs report).filter fun p => p.1 = name).map
        Prod.snd).flatten =
      report.functions.filter fun f => f.name = name := by
  unfold definitionPairs
  induction report.functions with
  | nil => rfl
  | cons f functions ih =>
      by_cases hf : f.name = name
      · simpa [hf] using ih
      · simpa [hf] using ih

/-- The definitions of a name are those of the analysed reports, in path
order. -/
theorem definitionsOf_ofReports (name : String) :
    (ofReports rules reports).definitionsOf name =
      (analyzed rules reports).flatMap fun r =>
        r.functions.filter fun f => f.name = name := by
  unfold definitionsOf
  rw [registry_ofReports, OrderedMap.getD_gather, foldl_append_eq_flatten]
  rw [List.filter_flatMap, List.map_flatMap, ← List.flatMap_id,
    List.flatMap_assoc]
  simp only [List.flatMap_id, definitionPairs_named]
  rfl

/-- A defined name has at least one definition. -/
theorem definitionsOf_ne_nil {name : String}
    (h : name ∈ (ofReports rules reports).names) :
    (ofReports rules reports).definitionsOf name ≠ [] := by
  obtain ⟨r, hr, f, hf, hname⟩ := mem_names_ofReports.mp h
  rw [definitionsOf_ofReports]
  have hmem : f ∈ r.functions.filter fun f => f.name = name :=
    List.mem_filter.mpr ⟨hf, decide_eq_true hname⟩
  exact List.ne_nil_of_mem (List.mem_flatMap.mpr ⟨r, hr, hmem⟩)

/-- A function `caller` of the file at `path` calls `target`. -/
def CallsIn (index : ProjectIndex) (path caller target : String) : Prop :=
  ∃ targets, ((path, caller), targets) ∈ index.calls.entries ∧ target ∈ targets

/-- A call in a file is read off the entry of the file and the caller. -/
theorem callsIn_iff {index : ProjectIndex} {path caller target : String} :
    index.CallsIn path caller target ↔
      target ∈ (index.calls.get? (path, caller)).getD .empty := by
  unfold CallsIn
  simp only [OrderedMap.mem_entries_iff]
  cases index.calls.get? (path, caller) with
  | none => simp
  | some targets => simp

theorem mem_foldl_union {target : String} (sets : List NameSet)
    (start : NameSet) :
    target ∈ sets.foldl NameSet.union start ↔
      target ∈ start ∨ ∃ s ∈ sets, target ∈ s := by
  induction sets generalizing start with
  | nil => simp
  | cons s sets ih => simp [ih, or_assoc]

/-- A call is known when an analysed report of the file has it. -/
theorem callsIn_ofReports {path caller target : String} :
    (ofReports rules reports).CallsIn path caller target ↔
      ∃ r ∈ analyzed rules reports, r.path = path ∧
        ∃ e ∈ r.calls.entries, e.1 = caller ∧ target ∈ e.2 := by
  rw [callsIn_iff, calls_ofReports, OrderedMap.getD_gather, mem_foldl_union]
  have hnone : target ∉
      ((OrderedMap.empty : OrderedMap (String × String) NameSet).get?
        (path, caller)).getD .empty := NameSet.not_mem_empty target
  simp only [hnone, false_or, List.mem_map, List.mem_filter, List.mem_flatMap,
    callPairs, decide_eq_true_eq]
  constructor
  · intro h
    obtain ⟨_, ⟨_, ⟨⟨r, hr, e, he, rfl⟩, hkey⟩, rfl⟩, htarget⟩ := h
    obtain ⟨hpath, hcaller⟩ := Prod.mk.inj hkey
    exact ⟨r, hr, hpath, e, he, hcaller, htarget⟩
  · intro h
    obtain ⟨r, hr, rfl, e, he, rfl, htarget⟩ := h
    exact ⟨e.2, ⟨_, ⟨⟨r, hr, e, he, rfl⟩, rfl⟩, rfl⟩, htarget⟩

/-- The comparison of paths is transitive, as the sort asks. -/
theorem pathOrder_trans (a b c : FileReport)
    (hab : decide (a.path ≤ b.path) = true)
    (hbc : decide (b.path ≤ c.path) = true) :
    decide (a.path ≤ c.path) = true := by
  rw [decide_eq_true_eq] at hab hbc ⊢
  exact String.le_trans hab hbc

theorem pathOrder_total (a b : FileReport) :
    (decide (a.path ≤ b.path) || decide (b.path ≤ a.path)) = true := by
  simp only [Bool.or_eq_true, decide_eq_true_eq]
  exact String.le_total a.path b.path

/-- The sorted reports are in the order of their paths. -/
theorem inPathOrder_ascending (reports : List FileReport) :
    (inPathOrder reports).Pairwise fun a b => a.path ≤ b.path := by
  have hsorted := List.pairwise_mergeSort pathOrder_trans pathOrder_total
    reports
  exact hsorted.imp of_decide_eq_true

/-- Two reports that come in the wrong order are exchanged. -/
theorem inPathOrder_pair {a b : FileReport} (h : b.path < a.path) :
    inPathOrder [a, b] = [b, a] := by
  have hle : ¬ a.path ≤ b.path := by
    rw [String.not_le]
    exact h
  simp [inPathOrder, List.mergeSort, hle]

theorem analyzed_ascending (rules : ExclusionRules)
    (reports : List FileReport) :
    (analyzed rules reports).Pairwise fun a b => a.path ≤ b.path :=
  ((inPathOrder_ascending reports).filter _).filter _

/-- **Path order of the calls.**  An entry of the call map comes after all the
entries of lesser paths, since the reports are merged in path order and an
entry that exists already keeps its place. -/
theorem calls_ascending (rules : ExclusionRules)
    (reports : List FileReport) :
    ((ofReports rules reports).calls.entries).Pairwise
      fun a b => a.1.1 ≤ b.1.1 := by
  have hpairs : ((analyzed rules reports).flatMap callPairs).Pairwise
      fun a b => a.1.1 ≤ b.1.1 := by
    refine List.pairwise_flatMap.mpr ⟨fun r _ => ?_, ?_⟩
    · exact List.pairwise_map.mpr
        (List.pairwise_of_forall fun _ _ => String.le_refl r.path)
    · refine (analyzed_ascending rules reports).imp fun {a b} hab => ?_
      intro x hx y hy
      obtain ⟨_, _, rfl⟩ := List.mem_map.mp hx
      obtain ⟨_, _, rfl⟩ := List.mem_map.mp hy
      exact hab
  have hkeys : (ofReports rules reports).calls.keys.Pairwise
      fun a b => a.1 ≤ b.1 := by
    rw [calls_ofReports, OrderedMap.keys_gather]
    refine List.Pairwise.sublist (eraseDups_sublist _) ?_
    rw [List.pairwise_map]
    exact hpairs
  unfold OrderedMap.keys at hkeys
  rwa [List.pairwise_map] at hkeys

end CallGraph.ProjectIndex
