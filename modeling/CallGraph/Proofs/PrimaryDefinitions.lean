import CallGraph.Proofs.Extraction
import CallGraph.Proofs.Provenance
import CallGraph.Proofs.TreeLinks

/-!
# Which definition a node shows

A function node shows one definition of its name and says how many there are.
The number counts files, not definitions: a file gives one record of a name
however often it defines it (`functions_named`).  The definition that is shown
is the first one, in pre-order, of the file with the least path among those
that define the name (`functionNode_represents`), since reports are merged in
path order and definitions are only ever added at the end.
-/

namespace CallGraph

/-- Definitions come in pre-order. -/
theorem Language.definitions_ascending (language : Language) (t : SyntaxTree)
    (path : String) (includePrivate : Bool) :
    (language.definitions t path includePrivate).Pairwise
      fun a b => a.node < b.node := by
  obtain ⟨read, hlist, hread⟩ :=
    language.definitions_eq_filterMap t path includePrivate
  rw [hlist, List.pairwise_filterMap]
  refine ((t.descendants_ascending _).filter _).imp fun {i j} hij => ?_
  intro a ha b hb
  rw [(hread i a ha).1, (hread j b hb).1]
  exact hij

/-- Where names are distinct, a name has the record that is found first and no
other. -/
theorem filter_name_eq_find? {fs : List FunctionInfo}
    (h : (fs.map (·.name)).Nodup) (name : String) :
    (fs.filter fun f => f.name = name) =
      (fs.find? fun f => f.name = name).toList := by
  induction fs with
  | nil => rfl
  | cons f fs ih =>
      rw [List.map_cons, List.nodup_cons] at h
      by_cases hf : f.name = name
      · have hrest : (fs.filter fun g => g.name = name) = [] := by
          rw [List.filter_eq_nil_iff]
          intro g hg hname
          have hsame : g.name = f.name :=
            (of_decide_eq_true hname).trans hf.symm
          exact h.1 (hsame ▸ List.mem_map_of_mem hg)
        simp [hf, hrest]
      · simp [hf, ih h.2]

/-- A file of a run that defines a name: it is of the language and not
excluded, it can be analysed, and it has a definition of that name. -/
structure SourceFile.Defines (grammar : Grammar) (options : Options)
    (language : Language) (file : SourceFile) (name : String) : Prop where
  of_language : language.matchesPath file.path = true
  not_excluded : options.exclusions.excludes file.path = false
  sound : fileFault? language file.text (grammar language file.text) = none
  defined : ∃ d ∈ language.definitions (grammar language file.text) file.path
    options.includePrivate, d.info.name = name

instance (grammar : Grammar) (options : Options) (language : Language)
    (file : SourceFile) (name : String) :
    Decidable (file.Defines grammar options language name) :=
  decidable_of_iff
    (language.matchesPath file.path = true ∧
      options.exclusions.excludes file.path = false ∧
      fileFault? language file.text (grammar language file.text) = none ∧
      ∃ d ∈ language.definitions (grammar language file.text) file.path
        options.includePrivate, d.info.name = name)
    ⟨fun ⟨hlanguage, hkept, hsound, hdefined⟩ =>
        ⟨hlanguage, hkept, hsound, hdefined⟩,
      fun h => ⟨h.of_language, h.not_excluded, h.sound, h.defined⟩⟩

namespace Options

variable {grammar : Grammar} {options : Options} {language : Language}
  {file : SourceFile} {files : List SourceFile} {name : String}

/-- The report on a file that could be analysed comes from its tree. -/
theorem reportOn_of_parsed
    (h : (options.reportOn grammar language file).parsed = true) :
    options.reportOn grammar language file =
      reportOfTree language file.path options.includePrivate
        (grammar language file.text) :=
  analyzeText_of_sound (Option.isNone_iff_eq_none.mp h)

/-- The record of a name in the report on a file is that of the first
definition of the name. -/
theorem find?_reportOn
    (h : (options.reportOn grammar language file).parsed = true) :
    ((options.reportOn grammar language file).functions.find?
        fun f => f.name = name) =
      ((language.definitions (grammar language file.text) file.path
        options.includePrivate).find? fun d => d.info.name = name).map
          (·.info) := by
  rw [reportOn_of_parsed h]
  unfold reportOfTree
  dsimp only
  rw [find?_firstByName, List.find?_map]
  rfl

/-- A file gives at most one record of a name. -/
theorem filter_reportOn
    (h : (options.reportOn grammar language file).parsed = true) :
    ((options.reportOn grammar language file).functions.filter
        fun f => f.name = name) =
      ((options.reportOn grammar language file).functions.find?
        fun f => f.name = name).toList := by
  apply filter_name_eq_find?
  rw [reportOn_of_parsed h]
  exact firstByName_nodup _

/-- A file of a run defines a name exactly if the report on it counts and has a
record of the name. -/
theorem defines_iff :
    file.Defines grammar options language name ↔
      options.selects language file.path = true ∧
        (options.reportOn grammar language file).parsed = true ∧
        ((options.reportOn grammar language file).functions.find?
          fun f => f.name = name).isSome := by
  constructor
  · intro h
    have hparsed : (options.reportOn grammar language file).parsed = true :=
      reportOn_parsed.mpr h.sound
    refine ⟨selects_iff.mpr ⟨h.of_language, h.not_excluded⟩, hparsed, ?_⟩
    rw [find?_reportOn hparsed, Option.isSome_map, List.find?_isSome]
    obtain ⟨d, hd, hname⟩ := h.defined
    exact ⟨d, hd, decide_eq_true hname⟩
  · intro h
    obtain ⟨hselects, hparsed, hfound⟩ := h
    obtain ⟨hlanguage, hkept⟩ := selects_iff.mp hselects
    rw [find?_reportOn hparsed, Option.isSome_map, List.find?_isSome] at hfound
    obtain ⟨d, hd, hname⟩ := hfound
    exact ⟨hlanguage, hkept, reportOn_parsed.mp hparsed, d, hd,
      of_decide_eq_true hname⟩

/-- The definitions of a name that a run knows: one of each file that counts
and has any, in path order. -/
theorem definitionsOf_reportsOn (name : String) :
    (ProjectIndex.ofReports options.exclusions
        (options.reportsOn grammar language files)).definitionsOf name =
      (ProjectIndex.analyzed options.exclusions
        (options.reportsOn grammar language files)).filterMap fun r =>
          r.functions.find? fun f => f.name = name := by
  rw [ProjectIndex.definitionsOf_ofReports, List.filterMap_eq_flatMap_toList]
  refine List.flatMap_congr fun r hr => ?_
  obtain ⟨file, _, _, hparsed, rfl⟩ := mem_analyzed_reportsOn.mp hr
  exact filter_reportOn hparsed

/-- **Defined names.**  A run knows the names that its files define. -/
theorem mem_names_reportsOn :
    name ∈ (ProjectIndex.ofReports options.exclusions
        (options.reportsOn grammar language files)).names ↔
      ∃ file ∈ files, file.Defines grammar options language name := by
  have hfind : ∀ fs : List FunctionInfo,
      (∃ f ∈ fs, f.name = name) ↔
        (fs.find? fun f => f.name = name).isSome := by
    simp
  simp only [ProjectIndex.mem_names_ofReports, hfind, defines_iff]
  constructor
  · intro h
    obtain ⟨_, hreport, hfound⟩ := h
    obtain ⟨file, hfile, hselects, hparsed, rfl⟩ :=
      mem_analyzed_reportsOn.mp hreport
    exact ⟨file, hfile, hselects, hparsed, hfound⟩
  · intro h
    obtain ⟨file, hfile, hselects, hparsed, hfound⟩ := h
    exact ⟨_, mem_analyzed_reportsOn.mpr
      ⟨file, hfile, hselects, hparsed, rfl⟩, hfound⟩

/-- **Number of definitions.**  A run counts the files that define a name. -/
theorem occurrenceCount_reportsOn (name : String) :
    (ProjectIndex.ofReports options.exclusions
        (options.reportsOn grammar language files)).occurrenceCount name =
      files.countP fun f => f.Defines grammar options language name := by
  have hperm : (ProjectIndex.analyzed options.exclusions
      (options.reportsOn grammar language files)).Perm
        (((options.reportsOn grammar language files).filter
          fun r => !options.exclusions.excludes r.path).filter
            FileReport.parsed) :=
    ((List.mergeSort_perm _ _).filter _).filter _
  unfold ProjectIndex.occurrenceCount
  rw [definitionsOf_reportsOn, List.length_filterMap_eq_countP,
    hperm.countP_eq, List.countP_filter, List.countP_filter]
  unfold reportsOn
  rw [List.countP_map, List.countP_filter]
  refine List.countP_congr fun file _ => ?_
  rw [decide_eq_true_eq, defines_iff]
  simp only [Function.comp_apply, reportOn_path, Bool.and_eq_true,
    Bool.not_eq_true']
  constructor
  · intro h
    obtain ⟨⟨⟨hfound, hparsed⟩, _⟩, hselects⟩ := h
    exact ⟨hselects, hparsed, hfound⟩
  · intro h
    obtain ⟨hselects, hparsed, hfound⟩ := h
    exact ⟨⟨⟨hfound, hparsed⟩, (selects_iff.mp hselects).2⟩, hselects⟩

/-- **Primary definition.**  The first definition of a name that a run knows is
the first one in the file with the least path among those that define it.
Reports before the first one with the name do not have it; those after it have
a path at least as great. -/
theorem primary?_reportsOn {info : FunctionInfo}
    (h : (ProjectIndex.ofReports options.exclusions
      (options.reportsOn grammar language files)).primary? name =
        some info) :
    ∃ file ∈ files, file.Defines grammar options language name ∧
      (∀ other ∈ files, other.Defines grammar options language name →
        Text.bytes file.path ≤ Text.bytes other.path) ∧
      ((language.definitions (grammar language file.text) file.path
        options.includePrivate).find? fun d => d.info.name = name).map
          (·.info) = some info := by
  unfold ProjectIndex.primary? at h
  rw [definitionsOf_reportsOn, List.head?_filterMap,
    List.findSome?_eq_some_iff] at h
  obtain ⟨before, report, after, hsplit, hfound, hbefore⟩ := h
  have horder := ProjectIndex.analyzed_ascending options.exclusions
    (options.reportsOn grammar language files)
  have hreport : report ∈ ProjectIndex.analyzed options.exclusions
      (options.reportsOn grammar language files) := by
    rw [hsplit]
    exact List.mem_append_right _ List.mem_cons_self
  obtain ⟨file, hfile, hselects, hparsed, rfl⟩ :=
    mem_analyzed_reportsOn.mp hreport
  refine ⟨file, hfile, ?_, ?_, ?_⟩
  · rw [defines_iff, hfound]
    exact ⟨hselects, hparsed, rfl⟩
  · intro other hother hdefines
    obtain ⟨hotherSelects, hotherParsed, hotherFound⟩ :=
      defines_iff.mp hdefines
    have hmem : options.reportOn grammar language other ∈
        ProjectIndex.analyzed options.exclusions
          (options.reportsOn grammar language files) :=
      mem_analyzed_reportsOn.mpr
        ⟨other, hother, hotherSelects, hotherParsed, rfl⟩
    rw [hsplit] at hmem horder
    have hnot : options.reportOn grammar language other ∉ before := by
      intro hearlier
      rw [hbefore _ hearlier] at hotherFound
      exact absurd hotherFound (by simp)
    have hle := rel_of_not_mem_before horder (fun r => String.le_refl r.path)
      hmem hnot
    rwa [reportOn_path, reportOn_path, ← Text.bytes_le_bytes] at hle
  · rw [← find?_reportOn hparsed]
    exact hfound

end Options

/-- What the node of a function says of its name. -/
theorem ProjectIndex.primary?_of_mem_report {index : ProjectIndex}
    {language : Language} {cap : Nat} {node : FunctionNode}
    (h : .function node ∈ (index.report language cap).nodes) :
    index.primary? node.id = some node.info ∧
      node.definitions = index.occurrenceCount node.id := by
  obtain ⟨_, hinfo, _, _, hcount⟩ := function_mem_report.mp h
  exact ⟨hinfo, hcount⟩

/-- A run without a language or without files shows nothing. -/
theorem Options.nodes_of_languageFor_error {options : Options}
    {paths : List String} {report : Report}
    (h : options.languageFor paths = .error report) : report.nodes = [] := by
  unfold languageFor at h
  split at h
  · obtain rfl := Except.error.inj h
    rfl
  · split at h
    · exact absurd h (by simp)
    · obtain rfl := Except.error.inj h
      rfl

/-- A node stands for the definitions of its name in the files of a run: it
counts the files that define the name, and it shows the definition that comes
first, in pre-order, in the file with the least path among them. -/
structure FunctionNode.Represents (node : FunctionNode) (grammar : Grammar)
    (options : Options) (language : Language) (files : List SourceFile) :
    Prop where
  count : node.definitions =
    files.countP fun f => f.Defines grammar options language node.id
  first : ∃ file ∈ files, file.Defines grammar options language node.id ∧
    node.info.filePath = file.path ∧
    (∀ other ∈ files, other.Defines grammar options language node.id →
      Text.bytes file.path ≤ Text.bytes other.path) ∧
    ∃ d ∈ language.definitions (grammar language file.text) file.path
        options.includePrivate,
      d.info.name = node.id ∧ d.info = node.info ∧
        ∀ other ∈ language.definitions (grammar language file.text) file.path
            options.includePrivate,
          other.info.name = node.id → d.node ≤ other.node

/-- What is found first among the definitions of a file comes first in
pre-order. -/
theorem Language.node_le_of_find? {language : Language} {t : SyntaxTree}
    {path name : String} {includePrivate : Bool} {d other : Definition}
    (h : (language.definitions t path includePrivate).find?
      (fun d => d.info.name = name) = some d)
    (hother : other ∈ language.definitions t path includePrivate)
    (hname : other.info.name = name) : d.node ≤ other.node := by
  obtain ⟨before, after, hsplit, hbefore⟩ :=
    (List.find?_eq_some_iff_append.mp h).2
  have horder := (language.definitions_ascending t path includePrivate).imp
    Nat.le_of_lt
  rw [hsplit] at hother horder
  have hnot : other ∉ before := by
    intro hmem
    exact absurd (hbefore other hmem) (by simp [hname])
  have hle := rel_of_not_mem_before horder (fun d => Nat.le_refl d.node)
    hother hnot
  exact hle

/-- **What a node stands for.**  Every function node of a run counts the files
that define its name and shows the first definition in the one with the least
path.  Files of one path count each on their own. -/
theorem functionNode_represents (grammar : Grammar) (options : Options)
    (files : List SourceFile) (node : FunctionNode)
    (h : .function node ∈ (analyzeFiles grammar options files).nodes) :
    ∃ language, options.languageFor (files.map (·.path)) = .ok language ∧
      node.Represents grammar options language files := by
  rw [analyzeFiles_eq] at h
  cases hlanguage : options.languageFor (files.map (·.path)) with
  | error report =>
      rw [hlanguage] at h
      dsimp only at h
      rw [Options.nodes_of_languageFor_error hlanguage] at h
      exact absurd h List.not_mem_nil
  | ok language =>
      rw [hlanguage] at h
      obtain ⟨hprimary, hcount⟩ := ProjectIndex.primary?_of_mem_report h
      refine ⟨language, rfl, ?_, ?_⟩
      · rw [hcount, Options.occurrenceCount_reportsOn]
      · obtain ⟨file, hfile, hdefines, hleast, hfirst⟩ :=
          Options.primary?_reportsOn hprimary
        obtain ⟨d, hfind, hinfo⟩ := Option.map_eq_some_iff.mp hfirst
        have hd := List.mem_of_find?_eq_some hfind
        have hname : d.info.name = node.id := by
          simpa using List.find?_some hfind
        refine ⟨file, hfile, hdefines, ?_, hleast, d, hd, hname, hinfo, ?_⟩
        · rw [← hinfo]
          exact Language.filePath_of_mem_definitions hd
        · intro other hother hotherName
          exact Language.node_le_of_find? hfind hother hotherName

/-- A node for a name that two files define twice each. -/
def repeatedNode : FunctionNode :=
  { id := "f"
    info := { name := "f", filePath := "a.py", line := 1 }
    language := .python
    connected := true
    definitions := 2 }

/-- A file with the text that defines `f`, then `g`, then `f` again. -/
def repeatedFile (path : String) : SourceFile := ⟨path, repeatedTree.source⟩

/-- Two files that define a name twice each: the node counts two. -/
theorem functionNode_represents_repeated :
    .function repeatedNode ∈ (analyzeFiles (fun _ _ => repeatedTree)
        { exclusions := .none } [repeatedFile "b.py",
          repeatedFile "a.py"]).nodes ∧
      ∃ language, ({ exclusions := .none } : Options).languageFor
          ["b.py", "a.py"] = .ok language ∧
        repeatedNode.Represents (fun _ _ => repeatedTree)
          { exclusions := .none } language
          [repeatedFile "b.py", repeatedFile "a.py"] := by
  have hlanguage : ({ exclusions := .none } : Options).languageFor
      ["b.py", "a.py"] = .ok .python := by
    decide +kernel
  have hselected : [repeatedFile "b.py", repeatedFile "a.py"].filter
      (fun f => ({ exclusions := .none } : Options).selects .python f.path) =
        [repeatedFile "b.py", repeatedFile "a.py"] := by
    rw [List.filter_eq_self]
    decide +kernel
  have hnode : .function repeatedNode ∈
      (analyzeFiles (fun _ _ => repeatedTree) { exclusions := .none }
        [repeatedFile "b.py", repeatedFile "a.py"]).nodes := by
    rw [analyzeFiles_of_languageFor hlanguage]
    unfold Options.conclude ProjectIndex.ofReports Options.reportsOn
    rw [hselected, List.map_cons, List.map_cons, List.map_nil,
      ProjectIndex.inPathOrder_pair (by decide +kernel)]
    decide +kernel
  exact ⟨hnode, functionNode_represents _ _ _ _ hnode⟩

end CallGraph
