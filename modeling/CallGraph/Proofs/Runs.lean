import CallGraph.Run
import CallGraph.Proofs.MergedReports

/-!
# What a run does with its files

Dealing the files out to workers changes nothing (`mapInShares_eq_map`), so a
run in a language is the report on its selected files, each analysed on its own
(`analyzeFiles_of_languageFor`).  Which language that is depends only on which
paths there are (`languageFor_congr`).
-/

namespace CallGraph

/-- The shares of a list put together are the list. -/
theorem shares_flatten {α : Type} (size : Nat) (items : List α) :
    (shares size items).flatten = items := by
  fun_induction shares size items with
  | case1 => rfl
  | case2 first rest ih =>
      rw [List.flatten_cons, ih, List.cons_append, List.take_append_drop]

/-- **Workers.**  Their number does not matter. -/
theorem mapInShares_eq_map {α β : Type} (workers : Nat) (f : α → β)
    (items : List α) : mapInShares workers f items = items.map f := by
  unfold mapInShares
  dsimp only
  rw [List.flatMap_def, ← List.map_flatten, shares_flatten]

/-- The report on a text names the path it was given. -/
theorem analyzeText_path (grammar : Grammar) (includePrivate : Bool)
    (language : Language) (path text : String) :
    (analyzeText grammar includePrivate language path text).path = path := by
  unfold analyzeText
  dsimp only
  split
  · rfl
  · rfl

namespace Options

variable (options : Options)

/-- The report on one file of a run. -/
def reportOn (grammar : Grammar) (language : Language) (file : SourceFile) :
    FileReport :=
  analyzeText grammar options.includePrivate language file.path file.text

/-- The reports on the files that a run selects. -/
def reportsOn (grammar : Grammar) (language : Language)
    (files : List SourceFile) : List FileReport :=
  (files.filter fun f => options.selects language f.path).map
    (options.reportOn grammar language)

variable {options}

theorem reportOn_path {grammar : Grammar} {language : Language}
    {file : SourceFile} :
    (options.reportOn grammar language file).path = file.path :=
  analyzeText_path _ _ _ _ _

/-- A path is selected if the language takes it and no rule excludes it. -/
theorem selects_iff {language : Language} {path : String} :
    options.selects language path = true ↔
      language.matchesPath path = true ∧
        options.exclusions.excludes path = false := by
  unfold selects
  rw [Bool.and_eq_true, Bool.not_eq_true']

/-- The reports on two lists of files are those on each, one after the other.
-/
theorem reportsOn_append {grammar : Grammar} {language : Language}
    (files others : List SourceFile) :
    options.reportsOn grammar language (files ++ others) =
      options.reportsOn grammar language files ++
        options.reportsOn grammar language others := by
  simp [reportsOn]

/-- A selected file has its report in its place among the others. -/
theorem reportsOn_insert {grammar : Grammar} {language : Language}
    (before after : List SourceFile) {file : SourceFile}
    (h : options.selects language file.path = true) :
    options.reportsOn grammar language (before ++ file :: after) =
      options.reportsOn grammar language before ++
        options.reportOn grammar language file ::
          options.reportsOn grammar language after := by
  simp [reportsOn, h]

/-- The reports of a run that count are those on its sound files. -/
theorem mem_analyzed_reportsOn {grammar : Grammar} {language : Language}
    {files : List SourceFile} {report : FileReport} :
    report ∈ ProjectIndex.analyzed options.exclusions
        (options.reportsOn grammar language files) ↔
      ∃ file ∈ files, options.selects language file.path = true ∧
        report.parsed = true ∧
        options.reportOn grammar language file = report := by
  simp only [ProjectIndex.analyzed, ProjectIndex.accepted,
    ProjectIndex.inPathOrder, List.mem_filter, List.mem_mergeSort, reportsOn,
    List.mem_map, Bool.not_eq_true']
  constructor
  · intro h
    obtain ⟨⟨⟨file, ⟨hfile, hselects⟩, hreport⟩, _⟩, hparsed⟩ := h
    exact ⟨file, hfile, hselects, hparsed, hreport⟩
  · intro h
    obtain ⟨file, hfile, hselects, hparsed, rfl⟩ := h
    refine ⟨⟨⟨file, ⟨hfile, hselects⟩, rfl⟩, ?_⟩, hparsed⟩
    rw [reportOn_path]
    exact (selects_iff.mp hselects).2

/-- The choice of the language looks at the set of paths only. -/
theorem languageFor_congr {paths others : List String}
    (h : ∀ path, path ∈ paths ↔ path ∈ others) :
    options.languageFor paths = options.languageFor others := by
  have hany : ∀ p : String → Bool, paths.any p = others.any p := by
    intro p
    rw [Bool.eq_iff_iff, List.any_eq_true, List.any_eq_true]
    simp only [h]
  unfold languageFor Language.detectProject?
  simp only [hany]

end Options

/-- A run chooses a language and reports on the files it selects. -/
theorem analyzeFiles_eq (grammar : Grammar) (options : Options)
    (files : List SourceFile) :
    analyzeFiles grammar options files =
      match options.languageFor (files.map (·.path)) with
      | .error report => report
      | .ok language => options.conclude language
          (options.reportsOn grammar language files) := by
  unfold analyzeFiles analyzeAll
  simp only [mapInShares_eq_map]
  rfl

/-- A run that finds its language concludes from the reports in that language.
-/
theorem analyzeFiles_of_languageFor {grammar : Grammar} {options : Options}
    {files : List SourceFile} {language : Language}
    (h : options.languageFor (files.map (·.path)) = .ok language) :
    analyzeFiles grammar options files =
      options.conclude language
        (options.reportsOn grammar language files) := by
  rw [analyzeFiles_eq, h]

/-- A language that was asked for is used if a path is selected, and the run is
empty otherwise. -/
theorem Options.languageFor_of_language {options : Options}
    {language : Language} (h : options.language = some language)
    (paths : List String) :
    options.languageFor paths =
      if paths.any (options.selects language) then .ok language
      else .error (.empty (some language)
        [(Failure.emptyProject language.displayName).message]) := by
  unfold languageFor
  rw [h, Option.some_or]

/-- With a language given and a file selected, a run concludes from the reports
on the files. -/
theorem analyzeFiles_of_language {grammar : Grammar} {options : Options}
    {language : Language} {files : List SourceFile}
    (h : options.language = some language)
    (hselects : ∃ f ∈ files, options.selects language f.path = true) :
    analyzeFiles grammar options files =
      options.conclude language
        (options.reportsOn grammar language files) := by
  apply analyzeFiles_of_languageFor
  rw [Options.languageFor_of_language h, if_pos]
  simpa using hselects

/-- Two reports tell the same, apart from what went wrong. -/
structure Report.SameGraph (report other : Report) : Prop where
  language : report.language = other.language
  nodes : report.nodes = other.nodes
  edges : report.edges = other.edges
  stats : report.stats = other.stats
  warning : report.warning = other.warning

theorem Report.SameGraph.symm {report other : Report}
    (h : report.SameGraph other) : other.SameGraph report :=
  ⟨h.language.symm, h.nodes.symm, h.edges.symm, h.stats.symm,
    h.warning.symm⟩

theorem Report.SameGraph.trans {first second third : Report}
    (h : first.SameGraph second) (h' : second.SameGraph third) :
    first.SameGraph third :=
  ⟨h.language.trans h'.language, h.nodes.trans h'.nodes,
    h.edges.trans h'.edges, h.stats.trans h'.stats,
    h.warning.trans h'.warning⟩

/-- **A given language.**  A run whose language is given has the graph of the
files that it selects, even when there are none. -/
theorem analyzeFiles_sameGraph (grammar : Grammar) {options : Options}
    {language : Language} (h : options.language = some language)
    (files : List SourceFile) :
    (analyzeFiles grammar options files).SameGraph
      (options.conclude language
        (options.reportsOn grammar language files)) := by
  by_cases hselects : ∃ f ∈ files, options.selects language f.path = true
  · rw [analyzeFiles_of_language h hselects]
    exact ⟨rfl, rfl, rfl, rfl, rfl⟩
  · have hlanguage :=
      Options.languageFor_of_language h (files.map (·.path))
    rw [if_neg (by simpa using hselects)] at hlanguage
    have hnone : options.reportsOn grammar language files = [] := by
      simpa [Options.reportsOn] using hselects
    rw [analyzeFiles_eq, hlanguage, hnone]
    unfold Options.conclude ProjectIndex.ofReports ProjectIndex.inPathOrder
    rw [List.mergeSort_nil]
    exact ⟨rfl, rfl, rfl, rfl, rfl⟩

/-- The tree of a function in Python that calls itself. -/
def selfCallTree : SyntaxTree where
  source := "def f():\n    f()\n"
  nodes := #[
    ⟨0, "module", none, true, false, 0, 17, 1⟩,
    ⟨1, "function_definition", none, true, false, 0, 16, 1⟩,
    ⟨2, "def", none, false, false, 0, 3, 1⟩,
    ⟨2, "identifier", some "name", true, false, 4, 5, 1⟩,
    ⟨2, "parameters", some "parameters", true, false, 5, 7, 1⟩,
    ⟨3, "(", none, false, false, 5, 6, 1⟩,
    ⟨3, ")", none, false, false, 6, 7, 1⟩,
    ⟨2, ":", none, false, false, 7, 8, 1⟩,
    ⟨2, "block", some "body", true, false, 13, 16, 2⟩,
    ⟨3, "expression_statement", none, true, false, 13, 16, 2⟩,
    ⟨4, "call", none, true, false, 13, 16, 2⟩,
    ⟨5, "identifier", some "function", true, false, 13, 14, 2⟩,
    ⟨5, "argument_list", some "arguments", true, false, 14, 16, 2⟩,
    ⟨6, "(", none, false, false, 14, 15, 2⟩,
    ⟨6, ")", none, false, false, 15, 16, 2⟩]
  preorder := by decide

/-- A grammar that knows one text. -/
def selfCallGrammar : Grammar := fun _ _ => selfCallTree

/-- A file with that text. -/
def selfCallFile (path : String) : SourceFile := ⟨path, selfCallTree.source⟩

end CallGraph
