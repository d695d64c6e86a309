import CallGraph.Directory.DirectoryRun
import CallGraph.Proofs.FailedFiles
import CallGraph.Proofs.Ranking

/-!
# Runs over a directory and runs over texts

A run over a directory reads the files that a scan finds; a run over texts has
them already.  The two have their own ways of selecting files and of handing
them to the analysis, and `analyze_agrees` says that these come to the same.
Where every file can be read, the reports are equal.  Where some cannot, and
the language is given, the graph is the one of the files that can be read, and
every selected file that cannot adds one message with its path.

A file that cannot be read has a report that fails, so the reports of a run
that succeed are those on the files that can be read (`parsed_reportsAt`).
This holds also when nothing can be read: one run then finds no functions, the
other no files, and the two say so in different words over the same empty
graph.
-/

namespace CallGraph

/-- The failure to read a file tells its path. -/
def NamesPaths (read : String → Except Failure String) : Prop :=
  ∀ path failure, read path = .error failure →
    ∃ detail, failure = .parse path detail

/-- The files that can be read, with their texts. -/
def readableFiles (read : String → Except Failure String)
    (paths : List String) : List SourceFile :=
  paths.filterMap fun path => (read path).toOption.map (⟨path, ·⟩)

namespace Options

variable (options : Options)

/-- The report on one path of a run. -/
def reportAt (grammar : Grammar) (read : String → Except Failure String)
    (language : Language) (path : String) : FileReport :=
  analyzeReading grammar options.includePrivate language path (read path)

/-- The reports on the paths that a run selects. -/
def reportsAt (grammar : Grammar) (read : String → Except Failure String)
    (language : Language) (paths : List String) : List FileReport :=
  (paths.filter (options.selects language)).map
    (options.reportAt grammar read language)

/-- What a report says of a path that fails. -/
def messageAt? (grammar : Grammar) (read : String → Except Failure String)
    (language : Language) (path : String) : Option String :=
  (options.reportAt grammar read language path).failure.map Failure.message

/-- The paths that a run selects and can analyse. -/
def soundPaths (grammar : Grammar) (read : String → Except Failure String)
    (language : Language) (paths : List String) : List String :=
  (paths.filter (options.selects language)).filter fun path =>
    (options.messageAt? grammar read language path).isNone

variable {options} {grammar : Grammar}
  {read : String → Except Failure String} {language : Language}

/-- A path that cannot be read gives a failed report. -/
theorem reportAt_of_error {path : String} {failure : Failure}
    (h : read path = .error failure) :
    options.reportAt grammar read language path =
      .failed path language failure := by
  rw [reportAt, h, analyzeReading]

/-- A path that can be read gives the report on its text. -/
theorem reportAt_of_ok {path text : String} (h : read path = .ok text) :
    options.reportAt grammar read language path =
      options.reportOn grammar language ⟨path, text⟩ := by
  rw [reportAt, h, analyzeReading]
  rfl

theorem reportAt_path {path : String} :
    (options.reportAt grammar read language path).path = path := by
  cases hread : read path with
  | error failure => rw [reportAt_of_error hread, FileReport.failed]
  | ok text => rw [reportAt_of_ok hread, reportOn_path]

/-- A path that cannot be read adds one message, which starts with the
path. -/
theorem messageAt?_of_error (hnamed : NamesPaths read) {path : String}
    {failure : Failure} (h : read path = .error failure) :
    ∃ detail : String, options.messageAt? grammar read language path =
      some s!"{path}: {detail}" := by
  obtain ⟨detail, rfl⟩ := hnamed path failure h
  refine ⟨detail, ?_⟩
  rw [messageAt?, reportAt_of_error h]
  rfl

/-- The reports at a list of paths are those at its selected members, in order.
-/
theorem reportsAt_cons (path : String) (paths : List String) :
    options.reportsAt grammar read language (path :: paths) =
      (if options.selects language path then
          [options.reportAt grammar read language path]
        else []) ++ options.reportsAt grammar read language paths := by
  unfold reportsAt
  rw [List.filter_cons]
  split
  · rfl
  · rfl

/-- The reports that succeed are those on the files that can be read. -/
theorem parsed_reportsAt (paths : List String) :
    (options.reportsAt grammar read language paths).filter
        FileReport.parsed =
      (options.reportsOn grammar language
        (readableFiles read paths)).filter FileReport.parsed := by
  induction paths with
  | nil => rfl
  | cons path paths ih =>
      rw [reportsAt_cons, List.filter_append, ih]
      cases hread : read path with
      | error failure =>
          have hfiles : readableFiles read (path :: paths) =
              readableFiles read paths := by
            simp [readableFiles, hread, Except.toOption]
          have hfailed : (FileReport.failed path language failure).parsed =
              false := rfl
          rw [hfiles, reportAt_of_error hread]
          split
          · rw [List.filter_cons_of_neg (by simp [hfailed])]
            rfl
          · rfl
      | ok text =>
          have hfiles : readableFiles read (path :: paths) =
              [⟨path, text⟩] ++ readableFiles read paths := by
            simp [readableFiles, hread, Except.toOption]
          rw [hfiles, reportsOn_append, List.filter_append,
            reportAt_of_ok hread]
          congr 2
          unfold reportsOn
          rw [List.filter_cons]
          split
          · rfl
          · rfl

end Options

namespace ProjectIndex

variable {rules : ExclusionRules} {reports others : List FileReport}

/-- The findings of an index come from the reports that succeed. -/
theorem sameFindings_of_parsed
    (h : reports.filter FileReport.parsed =
      others.filter FileReport.parsed) :
    (ofReports rules reports).SameFindings (ofReports rules others) := by
  apply ofReports_sameFindings
  unfold analyzed accepted
  rw [List.filter_comm, ← inPathOrder_filter FileReport.parsed, h,
    inPathOrder_filter, List.filter_comm]

end ProjectIndex

/-- A run chooses a language and reports on the paths it selects. -/
theorem analyzePaths_eq (grammar : Grammar) (options : Options)
    (read : String → Except Failure String) (paths : List String) :
    analyzePaths grammar options read paths =
      match options.languageFor paths with
      | .error report => report
      | .ok language => options.conclude language
          (options.reportsAt grammar read language paths) := by
  unfold analyzePaths
  simp only [mapInShares_eq_map]
  rfl

section

variable {grammar : Grammar} {options : Options}
  {read : String → Except Failure String} {paths : List String}
  {language : Language}

/-- With a language given and a path selected, a run concludes from the reports
at the selected paths. -/
theorem analyzePaths_of_language (h : options.language = some language)
    (hselects : ∃ path ∈ paths, options.selects language path = true) :
    analyzePaths grammar options read paths =
      options.conclude language
        (options.reportsAt grammar read language paths) := by
  have hlanguage := Options.languageFor_of_language h paths
  rw [if_pos (List.any_eq_true.mpr hselects)] at hlanguage
  rw [analyzePaths_eq, hlanguage]

/-- A run whose language is given has the graph of the paths that it selects,
even when there are none. -/
theorem analyzePaths_sameGraph (h : options.language = some language) :
    (analyzePaths grammar options read paths).SameGraph
      (options.conclude language
        (options.reportsAt grammar read language paths)) := by
  by_cases hselects : ∃ path ∈ paths, options.selects language path = true
  · rw [analyzePaths_of_language h hselects]
    exact ⟨rfl, rfl, rfl, rfl, rfl⟩
  · have hlanguage := Options.languageFor_of_language h paths
    rw [if_neg (mt List.any_eq_true.mp hselects)] at hlanguage
    have hnone : options.reportsAt grammar read language paths = [] := by
      simpa [Options.reportsAt] using hselects
    rw [analyzePaths_eq, hlanguage, hnone]
    unfold Options.conclude ProjectIndex.ofReports ProjectIndex.inPathOrder
    rw [List.mergeSort_nil]
    exact ⟨rfl, rfl, rfl, rfl, rfl⟩

/-- **All files read.**  The run over the paths is the run over the texts. -/
theorem analyzePaths_eq_analyzeFiles {texts : String → String}
    (h : ∀ path ∈ paths, read path = .ok (texts path)) :
    analyzePaths grammar options read paths =
      analyzeFiles grammar options
        (paths.map fun path => ⟨path, texts path⟩) := by
  have hpaths : (paths.map fun path =>
      (⟨path, texts path⟩ : SourceFile)).map (·.path) = paths := by
    rw [List.map_map]
    exact List.map_id paths
  have hreports : ∀ language,
      options.reportsAt grammar read language paths =
        options.reportsOn grammar language
          (paths.map fun path => ⟨path, texts path⟩) := by
    intro language
    unfold Options.reportsAt Options.reportsOn
    rw [List.filter_map, List.map_map]
    refine List.map_congr_left fun path hpath => ?_
    exact Options.reportAt_of_ok (h path (List.mem_filter.mp hpath).1)
  rw [analyzePaths_eq, analyzeFiles_eq, hpaths]
  cases options.languageFor paths with
  | error report => rfl
  | ok language =>
      exact congrArg (options.conclude language) (hreports language)

/-- **Some files not read.**  The graph is the one of the files that can be
read. -/
theorem analyzePaths_sameGraph_readable
    (h : options.language = some language) :
    (analyzePaths grammar options read paths).SameGraph
      (analyzeFiles grammar options (readableFiles read paths)) := by
  have hfindings : (ProjectIndex.ofReports options.exclusions
      (options.reportsAt grammar read language paths)).SameFindings
        (ProjectIndex.ofReports options.exclusions
          (options.reportsOn grammar language (readableFiles read paths))) :=
    ProjectIndex.sameFindings_of_parsed (Options.parsed_reportsAt paths)
  exact (analyzePaths_sameGraph h).trans
    ((hfindings.report language options.cap).trans
      (analyzeFiles_sameGraph grammar h _).symm)

/-- The rules keep all the reports of a run, and where the paths ascend these
are in order already. -/
theorem accepted_reportsAt (hsorted : paths.Pairwise (· ≤ ·)) :
    ProjectIndex.accepted options.exclusions
        (options.reportsAt grammar read language paths) =
      options.reportsAt grammar read language paths := by
  have hordered : ProjectIndex.inPathOrder
      (options.reportsAt grammar read language paths) =
        options.reportsAt grammar read language paths := by
    apply List.mergeSort_of_pairwise
    refine List.pairwise_map.mpr ((hsorted.filter _).imp fun hle => ?_)
    rw [Options.reportAt_path, Options.reportAt_path]
    exact decide_eq_true hle
  unfold ProjectIndex.accepted
  rw [hordered, List.filter_eq_self]
  intro report hreport
  obtain ⟨path, hpath, rfl⟩ := List.mem_map.mp hreport
  rw [Options.reportAt_path,
    (Options.selects_iff.mp (List.mem_filter.mp hpath).2).2]
  rfl

/-- A run counts the paths that it selects and can analyse. -/
theorem filesProcessed_reportsAt (hsorted : paths.Pairwise (· ≤ ·)) :
    (ProjectIndex.ofReports options.exclusions
        (options.reportsAt grammar read language paths)).filesProcessed =
      (options.soundPaths grammar read language paths).length := by
  rw [ProjectIndex.filesProcessed_ofReports, ProjectIndex.analyzed,
    accepted_reportsAt hsorted, Options.reportsAt, List.filter_map,
    List.length_map, Options.soundPaths]
  congr 1
  refine List.filter_congr fun path _ => ?_
  simp [FileReport.parsed, Options.messageAt?]

/-- The messages of a run are those of the selected paths that fail, in order,
and one more when no function was found. -/
theorem errors_analyzePaths (h : options.language = some language)
    (hselects : ∃ path ∈ paths, options.selects language path = true)
    (hsorted : paths.Pairwise (· ≤ ·)) :
    (analyzePaths grammar options read paths).errors =
      (paths.filter (options.selects language)).filterMap
          (options.messageAt? grammar read language) ++
        if (analyzePaths grammar options read paths).stats.totalFunctions = 0
        then [(Failure.noFunctions
          (options.soundPaths grammar read language paths).length).message]
        else [] := by
  have hmessages : (ProjectIndex.ofReports options.exclusions
      (options.reportsAt grammar read language paths)).errors =
        (paths.filter (options.selects language)).filterMap
          (options.messageAt? grammar read language) := by
    rw [ProjectIndex.errors_ofReports, accepted_reportsAt hsorted,
      Options.reportsAt, List.filterMap_map]
    rfl
  have hcount := (ProjectIndex.stats_report_counts
    (ProjectIndex.ofReports options.exclusions
      (options.reportsAt grammar read language paths))
    language options.cap).1
  rw [analyzePaths_of_language h hselects, Options.conclude,
    ProjectIndex.errors_report, hmessages, hcount,
    filesProcessed_reportsAt hsorted]
  exact congrArg _ (if_congr List.isEmpty_iff_length_eq_zero rfl rfl)

end

/-- How a run over paths, of which some may not be readable, compares with
runs over texts. -/
structure Report.AgreesWithTexts (report : Report) (grammar : Grammar)
    (options : Options) (read : String → Except Failure String)
    (paths : List String) : Prop where
  all_read : ∀ texts : String → String,
    (∀ path ∈ paths, read path = .ok (texts path)) →
      report = analyzeFiles grammar options
        (paths.map fun path => ⟨path, texts path⟩)
  same_graph : ∀ language, options.language = some language →
    report.SameGraph
      (analyzeFiles grammar options (readableFiles read paths))
  messages : ∀ language, options.language = some language →
    (∃ path ∈ paths, options.selects language path = true) →
      report.errors =
        (paths.filter (options.selects language)).filterMap
            (options.messageAt? grammar read language) ++
          if report.stats.totalFunctions = 0
          then [(Failure.noFunctions
            (options.soundPaths grammar read language paths).length).message]
          else []
  unreadable : ∀ language path failure, read path = .error failure →
    ∃ detail : String, options.messageAt? grammar read language path =
      some s!"{path}: {detail}"

/-- A run over sorted paths agrees with a run over the texts read there. -/
theorem analyzePaths_agreesWithTexts (grammar : Grammar) (options : Options)
    {read : String → Except Failure String} {paths : List String}
    (hnamed : NamesPaths read) (hsorted : paths.Pairwise (· ≤ ·)) :
    (analyzePaths grammar options read paths).AgreesWithTexts grammar options
      read paths where
  all_read _ := analyzePaths_eq_analyzeFiles
  same_graph _ := analyzePaths_sameGraph_readable
  messages _ h hselects := errors_analyzePaths h hselects hsorted
  unreadable _ _ _ := Options.messageAt?_of_error hnamed

namespace Directory

variable {d : Directory} {root : String} {rules : ExclusionRules}
  {paths : List String}

/-- A scan finds its files in ascending order. -/
theorem scan_ascending (h : d.scan root rules = .ok paths) :
    paths.Pairwise (· ≤ ·) := by
  unfold scan at h
  split at h
  · cases h
  · cases h
    refine (List.pairwise_mergeSort ?_ ?_ _).imp fun h => of_decide_eq_true h
    · intro a b c hab hbc
      exact decide_eq_true (String.le_trans (of_decide_eq_true hab)
        (of_decide_eq_true hbc))
    · intro a b
      rw [Bool.or_eq_true, decide_eq_true_eq, decide_eq_true_eq]
      exact String.le_total a b

/-- The failures of reading a file of a directory name the file that was asked
for. -/
theorem readSource_namesPaths (d : Directory) (root : String) :
    NamesPaths (d.readSource root) := by
  intro path failure hread
  unfold readSource at hread
  split at hread
  · cases hread
    exact ⟨_, rfl⟩
  · split at hread
    · cases hread
      exact ⟨_, rfl⟩
    · cases hread

/-- A short relative path that starts with a plain name. -/
abbrev IsPlain (d : Directory) (path name : String) (rest : List String) :
    Prop :=
  piecesOf path = name :: rest ∧ name ∉ ["", ".", ".."] ∧
    name.utf8ByteSize ≤ nameLimit ∧ '\x00' ∉ path.toList ∧
    isAbsolute path = false ∧
    (joined (joined d.location "") path).utf8ByteSize ≤ pathLimit

section

variable {path name : String} {rest : List String}
  {entries : List (String × FileTree)}

/-- A plain path is followed from the top by its first name. -/
theorem locate_of_isPlain (h : d.IsPlain path name rest)
    (htop : d.top = .folder entries) :
    d.locate "" path =
      match (FileTree.folder entries).child? name with
      | none => .error .notFound
      | some (.link target) =>
        d.follow (linkLimit - 1) (if isAbsolute target then none else some [])
          (piecesOf target ++ rest)
      | some _ => d.follow linkLimit (some [name]) rest := by
  obtain ⟨hpieces, hplain, hname, hnul, hrelative, hsize⟩ := h
  simp only [List.mem_cons, List.not_mem_nil, or_false, not_or] at hplain
  obtain ⟨hempty, hdot, hdots⟩ := hplain
  have hroot : isAbsolute "" = false ∧ piecesOf "" = [""] := by
    decide +kernel
  have hnode : d.nodeAt? (some []) = some (.folder entries) :=
    congrArg some htop
  rw [locate, if_neg (by simp [hnul]), if_neg (Nat.not_lt.mpr hsize),
    hrelative, hroot.1, hroot.2, hpieces, if_neg Bool.false_ne_true,
    if_neg Bool.false_ne_true, List.singleton_append, follow, hnode]
  dsimp only
  rw [if_pos (Or.inl rfl), follow, hnode]
  dsimp only
  rw [if_neg (not_or.mpr ⟨hempty, hdot⟩), if_neg hdots,
    if_neg (Nat.not_lt.mpr hname)]
  rfl

/-- A name that the top folder lacks is not found. -/
theorem readBytes_missing (h : d.IsPlain path name rest)
    (htop : d.top = .folder entries)
    (hmissing : (FileTree.folder entries).child? name = none) :
    d.readBytes "" path = .error .notFound := by
  rw [readBytes, locate_of_isPlain h htop, hmissing]

/-- A file of the top folder is read as it is. -/
theorem readBytes_file {content : ByteArray} (h : d.IsPlain path name [])
    (htop : d.top = .folder entries)
    (hfile : (FileTree.folder entries).child? name = some (.file content)) :
    d.readBytes "" path = .ok content := by
  have hnode : d.nodeAt? (some [name]) = some (.file content) := by
    rw [← hfile, ← htop]
    rfl
  rw [readBytes, locate_of_isPlain h htop, hfile]
  dsimp only
  rw [follow]
  dsimp only
  rw [hnode]

end

/-- A directory with a file that is not text and a file that is. -/
def mixed : Directory where
  location := "/project"
  top := .folder [("b.py", .file ⟨#[0xff]⟩),
    ("a.py", .file selfCallTree.source.toUTF8)]

theorem folderAt?_mixed :
    mixed.folderAt? "" = some mixed.top.entries := by
  have hroot : isAbsolute "" = false ∧ piecesOf "" = [""] := by
    decide +kernel
  have hlocate : mixed.locate "" "" = .ok (some []) := by
    rw [locate, if_neg (by decide), if_neg (by decide +kernel), hroot.1,
      hroot.2]
    simp [follow, nodeAt?, mixed]
  rw [folderAt?, hlocate]
  rfl

/-- The walk over that directory. -/
def mixedWalk : Walk where
  rules := .none
  content? names :=
    match mixed.readBytes "" (String.intercalate "/" names) with
    | .error _ => none
    | .ok content => some content

/-- No ignore file applies to the walk of that directory. -/
theorem rulesAt_mixedWalk : mixedWalk.rulesAt [] = ⟨0, [], [], []⟩ := by
  have hplain : mixed.IsPlain ".ignore" ".ignore" [] ∧
      mixed.IsPlain ".gitignore" ".gitignore" [] ∧
      mixed.IsPlain ".git/info/exclude" ".git" ["info", "exclude"] := by
    decide +kernel
  obtain ⟨hignore, hgitIgnore, hexclude⟩ := hplain
  have hnames : String.intercalate "/" [".ignore"] = ".ignore" ∧
      String.intercalate "/" [".gitignore"] = ".gitignore" ∧
      String.intercalate "/" [".git", "info", "exclude"] =
        ".git/info/exclude" := by
    decide +kernel
  simp [Walk.rulesAt, Walk.ignoreFileAt, mixedWalk, hnames,
    readBytes_missing hignore rfl rfl, readBytes_missing hgitIgnore rfl rfl,
    readBytes_missing hexclude rfl rfl]

/-- The scan of that directory finds both files, the unreadable one too. -/
theorem scan_mixed : mixed.scan "" .none = .ok ["a.py", "b.py"] := by
  have hfound : mixedWalk.filesIn [⟨0, [], [], []⟩] [] mixed.top.entries =
      [["b.py"], ["a.py"]] := by
    decide +kernel
  have hkept : (([["b.py"], ["a.py"]].map Walk.reportedPath).filter
      fun path => (Language.detect? path).isSome &&
        !mixedWalk.rules.excludes path) = ["b.py", "a.py"] := by
    decide +kernel
  have hsorted : (["b.py", "a.py"].mergeSort fun a b => a ≤ b) =
      ["a.py", "b.py"] := by
    have hle : ¬ "b.py" ≤ "a.py" := by decide
    simp [List.mergeSort, hle]
  rw [scan, folderAt?_mixed]
  change Except.ok (mixedWalk.sourceFiles mixed.top.entries) = _
  rw [Walk.sourceFiles, rulesAt_mixedWalk, hfound, hkept, hsorted]

/-- One file of that directory is read and the other is refused. -/
theorem readSource_mixed :
    mixed.readSource "" "a.py" = .ok selfCallTree.source ∧
      mixed.readSource "" "b.py" =
        .error (.parse "b.py" "not valid UTF-8 text") := by
  have hplain : mixed.IsPlain "a.py" "a.py" [] ∧
      mixed.IsPlain "b.py" "b.py" [] := by
    decide +kernel
  have htext : mixed.readBytes "" "a.py" =
      .ok selfCallTree.source.toUTF8 :=
    readBytes_file hplain.1 rfl rfl
  have hbytes : mixed.readBytes "" "b.py" = .ok ⟨#[0xff]⟩ :=
    readBytes_file hplain.2 rfl rfl
  have hvalid : String.fromUTF8? selfCallTree.source.toUTF8 =
      some selfCallTree.source :=
    dif_pos selfCallTree.source.isValidUTF8
  have hinvalid : String.fromUTF8? ⟨#[0xff]⟩ = none :=
    dif_neg (by decide +kernel)
  constructor
  · rw [readSource, htext]
    dsimp only
    rw [hvalid]
  · rw [readSource, hbytes]
    dsimp only
    rw [hinvalid]
    rfl

/-- A run over one function that calls itself counts one function. -/
theorem totalFunctions_selfCall :
    (analyzeFiles selfCallGrammar pythonRun
      [selfCallFile "a.py"]).stats.totalFunctions = 1 := by
  have hselects : pythonRun.selects .python "a.py" = true := by
    decide +kernel
  have hreports : pythonRun.reportsOn selfCallGrammar .python
      [selfCallFile "a.py"] =
        [pythonRun.reportOn selfCallGrammar .python (selfCallFile "a.py")] := by
    rw [Options.reportsOn, List.filter_cons_of_pos (by exact hselects)]
    rfl
  rw [analyzeFiles_of_language rfl
    ⟨selfCallFile "a.py", List.mem_cons_self, hselects⟩, hreports]
  unfold Options.conclude ProjectIndex.ofReports ProjectIndex.inPathOrder
  rw [List.mergeSort_singleton]
  decide +kernel

/-- **Directory runs.**  Let a scan find some paths.  Whatever reading them
gives, as long as a failure to read tells its path, the run agrees with the
runs over texts; and the run over the directory is such a run. -/
theorem analyze_agrees (d : Directory) (grammar : Grammar)
    (options : Options) (root : String) (paths : List String)
    (hscan : d.scan root options.exclusions = .ok paths) :
    (∀ read, NamesPaths read →
      (analyzePaths grammar options read paths).AgreesWithTexts grammar
        options read paths) ∧
      d.analyze grammar options root =
        analyzePaths grammar options (d.readSource root) paths ∧
      (d.analyze grammar options root).AgreesWithTexts grammar options
        (d.readSource root) paths := by
  have hsorted := scan_ascending hscan
  have hrun : d.analyze grammar options root =
      analyzePaths grammar options (d.readSource root) paths := by
    rw [analyze, hscan]
  refine ⟨fun read hnamed => ?_, hrun, ?_⟩
  · exact analyzePaths_agreesWithTexts grammar options hnamed hsorted
  · rw [hrun]
    exact analyzePaths_agreesWithTexts grammar options
      (d.readSource_namesPaths root) hsorted

/-- One file that can be read and one that cannot. -/
theorem analyze_agrees_mixed :
    mixed.scan "" pythonRun.exclusions = .ok ["a.py", "b.py"] ∧
      (mixed.analyze selfCallGrammar pythonRun "").SameGraph
        (analyzeFiles selfCallGrammar pythonRun [selfCallFile "a.py"]) ∧
      (mixed.analyze selfCallGrammar pythonRun "").errors =
        ["b.py: not valid UTF-8 text"] := by
  obtain ⟨_, _, hagrees⟩ := mixed.analyze_agrees selfCallGrammar pythonRun ""
    ["a.py", "b.py"] scan_mixed
  obtain ⟨hread, hfails⟩ := readSource_mixed
  have hgraph := hagrees.same_graph .python rfl
  have hfiles : readableFiles (mixed.readSource "") ["a.py", "b.py"] =
      [selfCallFile "a.py"] := by
    simp [readableFiles, hread, hfails, Except.toOption, selfCallFile]
  rw [hfiles] at hgraph
  have hselects : pythonRun.selects .python "a.py" = true ∧
      pythonRun.selects .python "b.py" = true := by
    decide +kernel
  have hsound : pythonRun.messageAt? selfCallGrammar (mixed.readSource "")
      .python "a.py" = none := by
    rw [Options.messageAt?, Options.reportAt_of_ok hread]
    decide +kernel
  have hunread : pythonRun.messageAt? selfCallGrammar (mixed.readSource "")
      .python "b.py" = some "b.py: not valid UTF-8 text" := by
    rw [Options.messageAt?, Options.reportAt_of_error hfails]
    decide +kernel
  have hmessages := hagrees.messages .python rfl
    ⟨"a.py", List.mem_cons_self, hselects.1⟩
  rw [hgraph.stats, totalFunctions_selfCall] at hmessages
  refine ⟨scan_mixed, hgraph, ?_⟩
  rw [hmessages]
  simp [hselects, hsound, hunread]

end Directory

end CallGraph
