import CallGraph.Proofs.DirectoryRuns
import CallGraph.Proofs.ExcludedFiles
import CallGraph.Proofs.ExternalNames
import CallGraph.Proofs.PrimaryDefinitions

/-!
# Runs without special names

By default a run leaves out the Python functions whose names have the form
`__word__`.  They are left out when definitions are read, before anything is
done with these: before records of one name are reduced to the first, and
before calls are gathered by name.  As both go by name, leaving names out
afterwards comes to the same (`firstByName_filter`, `fileCalls_filter`), so the
report on a file is the full report without those functions
(`analyzeText_false`).

Calls to such names stay in the report.  They do not get into the graph, since
external names of that form are not shown either (`not_isDunder_of_mem_report`).
-/

namespace CallGraph

/-- Names can be left out before or after records of one name are reduced to
the first. -/
theorem firstByName_filter (keep : String → Bool) (fs : List FunctionInfo) :
    firstByName (fs.filter fun f => keep f.name) =
      (firstByName fs).filter fun f => keep f.name := by
  induction fs with
  | nil => rfl
  | cons f fs ih =>
      by_cases hf : keep f.name = true
      · rw [List.filter_cons_of_pos (by exact hf), firstByName, ih,
          firstByName, List.filter_cons_of_pos (by exact hf),
          List.filter_comm]
      · rw [List.filter_cons_of_neg (by exact hf), ih, firstByName,
          List.filter_cons_of_neg (by exact hf), List.filter_filter]
        refine List.filter_congr fun g _ => ?_
        by_cases hg : keep g.name = true
        · have hne : g.name ≠ f.name := fun heq => hf (heq ▸ hg)
          simp [hne]
        · simp [hg]

namespace CallMap

/-- The calls of the callers that are kept. -/
def restrict (keep : String → Bool) (m : CallMap) : CallMap where
  entries := m.entries.filter fun e => keep e.1
  ascending := m.ascending.sublist (List.filter_sublist.map Prod.fst)

/-- Maps that give each caller the same calls are equal. -/
theorem ext_get? {m n : CallMap} (h : ∀ name, m.get? name = n.get? name) :
    m = n := by
  have hmem : ∀ e, e ∈ m.entries ↔ e ∈ n.entries := by
    rintro ⟨caller, targets⟩
    rw [mem_entries_iff, mem_entries_iff, h]
  have hne : ∀ {e e' : String × NameSet}, e.1 < e'.1 → e ≠ e' := by
    rintro e _ hlt rfl
    exact String.lt_irrefl e.1 hlt
  have hm := List.pairwise_map.mp m.ascending
  have hn := List.pairwise_map.mp n.ascending
  have hperm : m.entries.Perm n.entries :=
    (List.perm_ext_iff_of_nodup (hm.imp hne) (hn.imp hne)).mpr hmem
  have hentries : m.entries = n.entries :=
    hperm.eq_of_pairwise (fun e _ _ _ hlt hgt =>
      absurd (String.lt_trans hlt hgt) (String.lt_irrefl e.1)) hm hn
  cases m with
  | mk entries _ =>
      cases n with
      | mk others _ =>
          obtain rfl : entries = others := hentries
          rfl

/-- A restricted map has the entries of the names that are kept. -/
theorem get?_restrict {keep : String → Bool} {m : CallMap} {name : String}
    {targets : NameSet} :
    (m.restrict keep).get? name = some targets ↔
      keep name = true ∧ m.get? name = some targets := by
  rw [← mem_entries_iff, restrict, List.mem_filter, mem_entries_iff, and_comm]

end CallMap

section FileCalls

variable {language : Language} {t : SyntaxTree} {definitions : List Definition}
  {keep : String → Bool}

/-- A name that is kept calls what it called among all the definitions, and a
name that is left out calls nothing. -/
theorem Language.calledFrom_filter (name : String) :
    language.calledFrom t (definitions.filter fun d => keep d.info.name) name =
      if keep name then language.calledFrom t definitions name
      else .empty := by
  apply NameSet.ext
  intro target
  by_cases hname : keep name = true
  · rw [if_pos hname, mem_calledFrom, mem_calledFrom]
    constructor
    · rintro ⟨d, hd, hcalls⟩
      exact ⟨d, (List.mem_filter.mp hd).1, hcalls⟩
    · rintro ⟨d, hd, rfl, hcalls⟩
      exact ⟨d, List.mem_filter.mpr ⟨hd, hname⟩, rfl, hcalls⟩
  · rw [if_neg hname, mem_calledFrom]
    refine iff_of_false ?_ (NameSet.not_mem_empty target)
    rintro ⟨d, hd, rfl, _⟩
    exact hname (List.mem_filter.mp hd).2

/-- Names can be left out before or after calls are gathered by name. -/
theorem fileCalls_filter (language : Language) (t : SyntaxTree)
    (definitions : List Definition) (keep : String → Bool) :
    fileCalls language t (definitions.filter fun d => keep d.info.name) =
      (fileCalls language t definitions).restrict keep := by
  apply CallMap.ext_get?
  intro name
  apply Option.ext
  intro targets
  rw [get?_fileCalls, CallMap.get?_restrict, get?_fileCalls,
    Language.calledFrom_filter]
  by_cases hname : keep name = true
  · simp [hname]
  · simp [hname]

end FileCalls

theorem guard_eq_some_iff {p : Prop} [Decidable p] {u : Unit} :
    (guard p : Option Unit) = some u ↔ p := by
  by_cases h : p
  · rw [guard, if_pos h]
    exact iff_of_true rfl h
  · rw [guard, if_neg h]
    exact iff_of_false (fun hsome => nomatch hsome) h

namespace PythonSource

/-- A node gives the definition that it gives with special names, unless these
are left out and its name is one. -/
theorem definitionAt?_eq_some_iff {t : SyntaxTree} {path : String}
    {includePrivate : Bool} {i : Nat} {d : Definition} :
    definitionAt? t path includePrivate i = some d ↔
      definitionAt? t path true i = some d ∧
        (includePrivate || !isDunder d.info.name) = true := by
  unfold definitionAt?
  constructor
  · intro h
    obtain ⟨name, hname, h⟩ := Option.bind_eq_some_iff.mp h
    obtain ⟨_, hguard, h⟩ := Option.bind_eq_some_iff.mp h
    obtain rfl := Option.some.inj h
    refine ⟨?_, guard_eq_some_iff.mp hguard⟩
    refine Option.bind_eq_some_iff.mpr ⟨name, hname, ?_⟩
    exact Option.bind_eq_some_iff.mpr
      ⟨(), guard_eq_some_iff.mpr (Bool.true_or _), rfl⟩
  · rintro ⟨h, hkept⟩
    obtain ⟨name, hname, h⟩ := Option.bind_eq_some_iff.mp h
    obtain ⟨_, _, h⟩ := Option.bind_eq_some_iff.mp h
    obtain rfl := Option.some.inj h
    refine Option.bind_eq_some_iff.mpr ⟨name, hname, ?_⟩
    exact Option.bind_eq_some_iff.mpr
      ⟨(), guard_eq_some_iff.mpr hkept, rfl⟩

/-- Without the private functions just the dunder ones are left out. -/
theorem definitions_false (t : SyntaxTree) (path : String) :
    definitions t path false =
      (definitions t path true).filter fun d => !isDunder d.info.name := by
  unfold definitions
  rw [List.filter_filterMap]
  refine List.filterMap_congr fun i _ => Option.ext fun d => ?_
  rw [definitionAt?_eq_some_iff, Option.filter_eq_some_iff, Bool.false_or]

end PythonSource

/-- A report without the functions whose names are special. -/
def FileReport.withoutDunders (report : FileReport) : FileReport :=
  { report with
    functions := report.functions.filter fun f => !isDunder f.name
    calls := report.calls.restrict fun caller => !isDunder caller }

/-- **Reports.**  The report on a Python file without special names is the full
report without the functions that have them. -/
theorem analyzeText_false (grammar : Grammar) (path text : String) :
    analyzeText grammar false .python path text =
      (analyzeText grammar true .python path text).withoutDunders := by
  unfold analyzeText
  dsimp only
  cases fileFault? .python text (grammar .python text) with
  | some fault => rfl
  | none =>
      dsimp only
      have hdefinitions := PythonSource.definitions_false
        (grammar .python text) path
      unfold reportOfTree FileReport.withoutDunders Language.definitions
      dsimp only
      rw [hdefinitions, fileCalls_filter .python _ _ fun n => !isDunder n,
        ← firstByName_filter fun n => !isDunder n, List.filter_map]
      rfl

/-- In C and C++ no name is special. -/
theorem analyzeText_of_ne_python (grammar : Grammar) {language : Language}
    (h : language ≠ .python) (path text : String) :
    analyzeText grammar false language path text =
      analyzeText grammar true language path text := by
  cases language with
  | python => exact absurd rfl h
  | c => rfl
  | cpp => rfl

/-- No dunder function is in a report made without private functions. -/
theorem not_isDunder_of_mem_functions {grammar : Grammar} {path text : String}
    {f : FunctionInfo}
    (h : f ∈ (analyzeText grammar false .python path text).functions) :
    isDunder f.name = false := by
  rw [analyzeText_false] at h
  have hkept := (List.mem_filter.mp h).2
  rwa [Bool.not_eq_true'] at hkept

namespace ProjectIndex

/-- An external node of a report stands for a shown external name. -/
theorem mem_shownExternals_of_mem_report {index : ProjectIndex}
    {language : Language} {cap : Nat} {node : ExternalNode}
    (h : .external node ∈ (index.report language cap).nodes) :
    node.id ∈ index.shownExternals language := by
  unfold report at h
  split at h
  · exact absurd h List.not_mem_nil
  · have hnode : node ∈ index.externalNodes language cap := by
      simpa [nodes_eq] using h
    have hid := List.mem_map_of_mem (f := ExternalNode.id) hnode
    rwa [externalNodes_ids] at hid

/-- No dunder name is shown as external, in any language. -/
theorem not_isDunder_of_mem_shownExternals {index : ProjectIndex}
    {language : Language} {name : String}
    (h : name ∈ index.shownExternals language) : isDunder name = false := by
  have hexternal := (NameSet.mem_filter.mp (NameSet.mem_of_mem_take h)).2
  rw [Bool.and_eq_true, Language.reportsExternal, Bool.and_eq_true]
    at hexternal
  have hplain := hexternal.2.2
  rwa [Bool.not_eq_true'] at hplain

/-- A graph shows no special name if no file has a function of such a name. -/
theorem not_isDunder_of_mem_report {rules : ExclusionRules}
    {reports : List FileReport}
    (h : ∀ report ∈ reports, ∀ f ∈ report.functions, isDunder f.name = false)
    {language : Language} {cap : Nat} {node : GraphNode}
    (hnode : node ∈ ((ofReports rules reports).report language cap).nodes) :
    isDunder node.id = false := by
  cases node with
  | function node =>
      have hshown := (function_mem_report.mp hnode).1
      obtain ⟨report, hreport, f, hf, hname⟩ :=
        mem_names_ofReports.mp (mem_names_of_mem_displayed hshown)
      have haccepted := (List.mem_filter.mp hreport).1
      have hmem := List.mem_mergeSort.mp (List.mem_filter.mp haccepted).1
      rw [GraphNode.id, ← hname]
      exact h report hmem f hf
  | external node =>
      exact not_isDunder_of_mem_shownExternals
        (mem_shownExternals_of_mem_report hnode)

end ProjectIndex

/-- If a report is on Python, none of its nodes has a name whose last segment
has the form `__word__`. -/
def Report.HidesDunders (report : Report) : Prop :=
  report.language = some .python → ∀ node ∈ report.nodes,
    ∀ segment, IsLastSegment segment node.id → ¬ IsDunderForm segment

/-- **Runs.**  Whatever the reports on the files come from, a run on Python
shows no special name if the files have no functions of such names. -/
theorem Options.hidesDunders (options : Options) (paths : List String)
    (reports : Language → List FileReport) {run : Report}
    (herror : ∀ report, options.languageFor paths = .error report →
      run = report)
    (hok : ∀ language, options.languageFor paths = .ok language →
      run = options.conclude language (reports language))
    (h : ∀ report ∈ reports .python, ∀ f ∈ report.functions,
      isDunder f.name = false) : run.HidesDunders := by
  intro hpython node hnode segment hsegment hform
  cases hlanguage : options.languageFor paths with
  | error report =>
      rw [herror report hlanguage,
        nodes_of_languageFor_error hlanguage] at hnode
      exact List.not_mem_nil hnode
  | ok language =>
      have hrun := hok language hlanguage
      obtain rfl : language = .python := by
        rw [hrun, conclude, ProjectIndex.language_report] at hpython
        exact Option.some.inj hpython
      rw [hrun] at hnode
      have hplain := ProjectIndex.not_isDunder_of_mem_report h hnode
      rw [isDunder_iff.mpr ⟨segment, hsegment, hform⟩] at hplain
      exact Bool.noConfusion hplain

/-- A run over texts without private functions shows no dunder name. -/
theorem analyzeFiles_hidesDunders (grammar : Grammar) {options : Options}
    (h : options.includePrivate = false) (files : List SourceFile) :
    (analyzeFiles grammar options files).HidesDunders := by
  refine options.hidesDunders (files.map (·.path))
    (fun language => options.reportsOn grammar language files)
    (fun report hreport => ?_) (fun language hlanguage => ?_) ?_
  · rw [analyzeFiles_eq, hreport]
  · exact analyzeFiles_of_languageFor hlanguage
  · intro report hreport f hf
    obtain ⟨file, _, rfl⟩ := List.mem_map.mp hreport
    rw [Options.reportOn, h] at hf
    exact not_isDunder_of_mem_functions hf

/-- Nor does a run over paths, whatever can be read there. -/
theorem analyzePaths_hidesDunders (grammar : Grammar) {options : Options}
    (h : options.includePrivate = false)
    (read : String → Except Failure String) (paths : List String) :
    (analyzePaths grammar options read paths).HidesDunders := by
  refine options.hidesDunders paths
    (fun language => options.reportsAt grammar read language paths)
    (fun report hreport => ?_) (fun language hlanguage => ?_) ?_
  · rw [analyzePaths_eq, hreport]
  · rw [analyzePaths_eq, hlanguage]
  · intro report hreport f hf
    obtain ⟨path, _, rfl⟩ := List.mem_map.mp hreport
    cases hread : read path with
    | error failure =>
        rw [Options.reportAt_of_error hread] at hf
        exact absurd hf List.not_mem_nil
    | ok text =>
        rw [Options.reportAt_of_ok hread, Options.reportOn, h] at hf
        exact not_isDunder_of_mem_functions hf

/-- **Special names.**  Whether special names are asked for changes the report
on a Python file by the functions of such names and their calls only, and the
report on a C or C++ file not at all.  A Python run that does not ask for them,
over texts or over a directory, shows none. -/
theorem dunders_left_out (grammar : Grammar) :
    (∀ path text, analyzeText grammar false .python path text =
      (analyzeText grammar true .python path text).withoutDunders) ∧
    (∀ language path text, language ≠ .python →
      analyzeText grammar false language path text =
        analyzeText grammar true language path text) ∧
    ∀ options : Options, options.includePrivate = false →
      (∀ files, (analyzeFiles grammar options files).HidesDunders) ∧
      ∀ (d : Directory) (root : String),
        (d.analyze grammar options root).HidesDunders := by
  refine ⟨analyzeText_false grammar, ?_, fun options h => ⟨?_, ?_⟩⟩
  · intro language path text hlanguage
    exact analyzeText_of_ne_python grammar hlanguage path text
  · exact analyzeFiles_hidesDunders grammar h
  · intro d root
    unfold Directory.analyze
    split
    · intro _ node hnode
      exact absurd hnode List.not_mem_nil
    · exact analyzePaths_hidesDunders grammar h _ _

/-- The tree of a special function around a plain one, which calls it. -/
def nestedDunderTree : SyntaxTree where
  source := "def __a__():\n  def f(): __a__()\n"
  nodes := #[
    ⟨0, "module", none, true, false, 0, 32, 1⟩,
    ⟨1, "function_definition", none, true, false, 0, 31, 1⟩,
    ⟨2, "identifier", some "name", true, false, 4, 9, 1⟩,
    ⟨2, "parameters", some "parameters", true, false, 9, 11, 1⟩,
    ⟨2, "block", some "body", true, false, 15, 31, 2⟩,
    ⟨3, "function_definition", none, true, false, 15, 31, 2⟩,
    ⟨4, "identifier", some "name", true, false, 19, 20, 2⟩,
    ⟨4, "parameters", some "parameters", true, false, 20, 22, 2⟩,
    ⟨4, "block", some "body", true, false, 24, 31, 2⟩,
    ⟨5, "expression_statement", none, true, false, 24, 31, 2⟩,
    ⟨6, "call", none, true, false, 24, 31, 2⟩,
    ⟨7, "identifier", some "function", true, false, 24, 29, 2⟩]
  preorder := by decide

/-- A grammar that knows one text. -/
def nestedDunderGrammar : Grammar := fun _ _ => nestedDunderTree

/-- A file with that text. -/
def nestedDunderFile : SourceFile := ⟨"a.py", nestedDunderTree.source⟩

theorem nodeIds_nestedDunder :
    (analyzeFiles nestedDunderGrammar pythonRun
      [nestedDunderFile]).nodes.map GraphNode.id = ["f"] := by
  have hselects : pythonRun.selects .python nestedDunderFile.path = true := by
    decide +kernel
  have hreports : pythonRun.reportsOn nestedDunderGrammar .python
      [nestedDunderFile] =
        [pythonRun.reportOn nestedDunderGrammar .python nestedDunderFile] := by
    rw [Options.reportsOn, List.filter_cons_of_pos (by exact hselects)]
    rfl
  rw [analyzeFiles_of_language rfl
    ⟨nestedDunderFile, List.mem_cons_self, hselects⟩, hreports]
  unfold Options.conclude ProjectIndex.ofReports ProjectIndex.inPathOrder
  rw [List.mergeSort_singleton]
  decide +kernel

/-- A function inside a special one stays, and its call of that one is not
shown. -/
theorem dunders_left_out_nested :
    ((analyzeText nestedDunderGrammar true .python "a.py"
        nestedDunderTree.source).functions.map (·.name) = ["__a__", "f"] ∧
      (analyzeText nestedDunderGrammar false .python "a.py"
        nestedDunderTree.source).functions.map (·.name) = ["f"] ∧
      (analyzeText nestedDunderGrammar false .python "a.py"
        nestedDunderTree.source).calls.entries.map Prod.fst = ["f"]) ∧
      analyzeText nestedDunderGrammar false .python "a.py"
          nestedDunderTree.source =
        (analyzeText nestedDunderGrammar true .python "a.py"
          nestedDunderTree.source).withoutDunders ∧
      analyzeText nestedDunderGrammar false .c "a.c" nestedDunderTree.source =
        analyzeText nestedDunderGrammar true .c "a.c"
          nestedDunderTree.source ∧
      (analyzeFiles nestedDunderGrammar pythonRun
        [nestedDunderFile]).language = some .python ∧
      (analyzeFiles nestedDunderGrammar pythonRun
        [nestedDunderFile]).nodes.map GraphNode.id = ["f"] ∧
      (analyzeFiles nestedDunderGrammar pythonRun
        [nestedDunderFile]).HidesDunders ∧
      (Directory.mixed.analyze nestedDunderGrammar pythonRun
        "").HidesDunders := by
  obtain ⟨hpython, hother, hruns⟩ := dunders_left_out nestedDunderGrammar
  obtain ⟨hfiles, hdirectories⟩ := hruns pythonRun rfl
  refine ⟨by decide +kernel, hpython "a.py" nestedDunderTree.source,
    hother .c "a.c" nestedDunderTree.source (by decide), ?_,
    nodeIds_nestedDunder, hfiles [nestedDunderFile],
    hdirectories Directory.mixed ""⟩
  rw [language_analyzeFiles]
  rfl

end CallGraph
