import CallGraph.Proofs.PrimaryDefinitions

/-!
# Adding a file

One more file may turn an external name into a function, change the file of an
edge and the definition that a node shows.  As long as the cap does not hide
functions, it takes nothing away: functions stay, with at least as many
definitions, connected functions stay connected, and edges between functions
stay (`analyzeFiles_insert_grows`).

The argument is about indexes.  An index within another one (`Within`) has
fewer names, calls and definitions.  Being connected is monotone in the first
two (`Within.connected`), and where all names are shown the graph only reads
these three (`Within.report`).  More files give a wider index, because names,
calls and definitions are those of the single files (`reportsOn_within`).
-/

namespace CallGraph

/-- What stays when a project grows: the functions, with at least as many
definitions and still connected if they were, and the edges between them. -/
structure Report.GrowsTo (small large : Report) : Prop where
  functions : ∀ node, .function node ∈ small.nodes →
    ∃ grown, .function grown ∈ large.nodes ∧ grown.id = node.id ∧
      node.definitions ≤ grown.definitions ∧
      (node.connected = true → grown.connected = true)
  edges : ∀ e ∈ small.edges, e.source ∈ small.functionIds →
    e.target ∈ small.functionIds → e.ends ∈ large.edges.map Edge.ends

namespace ProjectIndex

/-- What the first index knows, the second knows, too. -/
structure Within (small large : ProjectIndex) : Prop where
  names : ∀ name ∈ small.names, name ∈ large.names
  calls : ∀ caller target, small.Calls caller target →
    large.Calls caller target
  counts : ∀ name, small.occurrenceCount name ≤ large.occurrenceCount name

/-- A name has a primary definition exactly when the index counts one of it.
-/
theorem primary?_isSome_iff {index : ProjectIndex} {name : String} :
    (index.primary? name).isSome ↔ 0 < index.occurrenceCount name := by
  unfold primary? occurrenceCount
  rw [List.isSome_head?, List.length_pos_iff]

namespace Within

variable {small large : ProjectIndex} (h : small.Within large)
include h

/-- Being connected is monotone in names and calls. -/
theorem connected {name : String} (hname : name ∈ small.connected) :
    name ∈ large.connected := by
  obtain ⟨hdefined, hlinked⟩ := mem_connected.mp hname
  refine mem_connected.mpr ⟨h.names name hdefined, ?_⟩
  rcases hlinked with ⟨caller, hcalls⟩ | ⟨target, htarget, hcalls⟩
  · exact Or.inl ⟨caller, h.calls caller name hcalls⟩
  · exact Or.inr ⟨target, h.names target htarget,
      h.calls name target hcalls⟩

/-- **Growth of a graph.**  Where the cap allows for all names of the greater
index, its graph has the functions of the lesser one and the edges between
them. -/
theorem report (language : Language) {cap : Nat}
    (hcap : large.names.size ≤ cap) :
    (small.report language cap).GrowsTo (large.report language cap) := by
  have hshown : ∀ name ∈ small.displayed cap,
      name ∈ large.displayed cap := by
    intro name hname
    rw [displayed, if_pos hcap]
    exact h.names name (mem_names_of_mem_displayed hname)
  constructor
  · intro node hnode
    obtain ⟨hid, hinfo, _, hconnected, hcount⟩ :=
      function_mem_report.mp hnode
    have hsome : (large.primary? node.id).isSome := by
      have hpos : 0 < small.occurrenceCount node.id :=
        primary?_isSome_iff.mp (by rw [hinfo]; rfl)
      exact primary?_isSome_iff.mpr
        (Nat.lt_of_lt_of_le hpos (h.counts node.id))
    obtain ⟨info, hlarge⟩ := Option.isSome_iff_exists.mp hsome
    refine ⟨⟨node.id, info, language, node.id ∈ large.connected,
      large.occurrenceCount node.id⟩, ?_, rfl, ?_, ?_⟩
    · exact function_mem_report.mpr
        ⟨hshown _ hid, hlarge, rfl, rfl, rfl⟩
    · rw [hcount]
      exact h.counts node.id
    · intro hmarked
      have hlinked : node.id ∈ small.connected :=
        of_decide_eq_true (hconnected.symm.trans hmarked)
      exact decide_eq_true (h.connected hlinked)
  · intro e he hsource htarget
    have hsource := mem_displayed_of_mem_functionIds hsource
    have htarget := mem_displayed_of_mem_functionIds htarget
    rw [edges_report] at he ⊢
    obtain ⟨_, _, hcalls, _⟩ := mem_edges.mp he
    have hedge : (⟨e.source, e.target,
        large.firstFile? e.source e.target⟩ : Edge) ∈
          large.edges language cap :=
      mem_edges.mpr ⟨hshown _ hsource, Or.inl (hshown _ htarget),
        h.calls _ _ hcalls, rfl⟩
    exact List.mem_map.mpr ⟨_, hedge, rfl⟩

end Within

end ProjectIndex

namespace Options

variable {grammar : Grammar} {options : Options} {language : Language}
  {files more : List SourceFile}

/-- The names of the functions that the files of a run define. -/
def definedNames (options : Options) (grammar : Grammar)
    (language : Language) (files : List SourceFile) : NameSet :=
  let sound := files.filter fun f =>
    options.selects language f.path &&
      (fileFault? language f.text (grammar language f.text)).isNone
  .ofList (sound.flatMap fun f =>
    (language.definitions (grammar language f.text) f.path
      options.includePrivate).map (·.info.name))

/-- The defined names are those that some file of the list defines. -/
theorem mem_definedNames {name : String} :
    name ∈ options.definedNames grammar language files ↔
      ∃ file ∈ files, file.Defines grammar options language name := by
  simp only [definedNames, NameSet.mem_ofList, List.mem_flatMap,
    List.mem_filter, List.mem_map, Bool.and_eq_true, selects_iff,
    Option.isNone_iff_eq_none]
  constructor
  · intro h
    obtain ⟨file, ⟨hfile, ⟨hlanguage, hkept⟩, hsound⟩, d, hd, hname⟩ := h
    exact ⟨file, hfile, hlanguage, hkept, hsound, d, hd, hname⟩
  · intro h
    obtain ⟨file, hfile, hlanguage, hkept, hsound, d, hd, hname⟩ := h
    exact ⟨file, ⟨hfile, ⟨hlanguage, hkept⟩, hsound⟩, d, hd, hname⟩

/-- The index of the reports on files holds the names that the files define.
-/
theorem names_reportsOn :
    (ProjectIndex.ofReports options.exclusions
        (options.reportsOn grammar language files)).names =
      options.definedNames grammar language files :=
  NameSet.ext fun _ => mem_names_reportsOn.trans mem_definedNames.symm

/-- More files, wherever they come in, give a wider index. -/
theorem reportsOn_within (h : files.Sublist more) :
    (ProjectIndex.ofReports options.exclusions
        (options.reportsOn grammar language files)).Within
      (ProjectIndex.ofReports options.exclusions
        (options.reportsOn grammar language more)) where
  names := by
    intro name hname
    obtain ⟨file, hfile, hdefines⟩ := mem_names_reportsOn.mp hname
    exact mem_names_reportsOn.mpr ⟨file, h.subset hfile, hdefines⟩
  calls := by
    intro caller target hcalls
    obtain ⟨file, hfile, hjust⟩ := calls_reportsOn.mp hcalls
    exact calls_reportsOn.mpr ⟨file, h.subset hfile, hjust⟩
  counts := by
    intro name
    rw [occurrenceCount_reportsOn, occurrenceCount_reportsOn]
    exact h.countP_le

end Options

/-- Growth looks at graphs only. -/
theorem Report.GrowsTo.congr {small small' large large' : Report}
    (h : small.GrowsTo large) (hsmall : small'.SameGraph small)
    (hlarge : large'.SameGraph large) : small'.GrowsTo large' := by
  constructor
  · rw [hsmall.nodes, hlarge.nodes]
    exact h.functions
  · unfold functionIds
    rw [hsmall.nodes, hsmall.edges, hlarge.edges]
    exact h.edges

/-- **Adding a file.**  In a run whose language is given, one more file takes
away neither a function nor an edge between functions, if the cap allows for
all the names of the enlarged project. -/
theorem analyzeFiles_insert_grows (grammar : Grammar) (options : Options)
    (language : Language) (before after : List SourceFile)
    (file : SourceFile) (hlanguage : options.language = some language)
    (hcap : (options.definedNames grammar language
      (before ++ file :: after)).size ≤ options.cap) :
    (analyzeFiles grammar options (before ++ after)).GrowsTo
      (analyzeFiles grammar options (before ++ file :: after)) := by
  have hfiles : (before ++ after).Sublist (before ++ file :: after) :=
    (List.sublist_cons_self file after).append_left before
  rw [← Options.names_reportsOn] at hcap
  have hgrows := (Options.reportsOn_within hfiles).report language hcap
  exact hgrows.congr (analyzeFiles_sameGraph grammar hlanguage _)
    (analyzeFiles_sameGraph grammar hlanguage _)

/-- A run over Python files that shows at most two functions. -/
def twoFunctionRun : Options :=
  { language := some .python, exclusions := .none, cap := 2 }

/-- A function of the smaller run of the example below. -/
def repeatedOnceNode : FunctionNode :=
  { id := "f"
    info := { name := "f", filePath := "b.py", line := 1 }
    language := .python
    connected := true
    definitions := 1 }

/-- A second file with the same two functions that call each other, where the
cap allows for two. -/
theorem analyzeFiles_insert_grows_repeated :
    (twoFunctionRun.definedNames (fun _ _ => repeatedTree) .python
        ([repeatedFile "b.py"] ++ repeatedFile "a.py" :: [])).size ≤ 2 ∧
      .function repeatedOnceNode ∈ (analyzeFiles (fun _ _ => repeatedTree)
        twoFunctionRun ([repeatedFile "b.py"] ++ [])).nodes ∧
      (analyzeFiles (fun _ _ => repeatedTree) twoFunctionRun
        ([repeatedFile "b.py"] ++ [])).GrowsTo
        (analyzeFiles (fun _ _ => repeatedTree) twoFunctionRun
          ([repeatedFile "b.py"] ++ repeatedFile "a.py" :: [])) := by
  have hcap : (twoFunctionRun.definedNames (fun _ _ => repeatedTree) .python
      ([repeatedFile "b.py"] ++ repeatedFile "a.py" :: [])).size ≤ 2 := by
    decide +kernel
  have hselects : twoFunctionRun.selects .python "b.py" = true := by
    decide +kernel
  have hselected : twoFunctionRun.reportsOn (fun _ _ => repeatedTree) .python
      [repeatedFile "b.py"] =
        [twoFunctionRun.reportOn (fun _ _ => repeatedTree) .python
          (repeatedFile "b.py")] :=
    Options.reportsOn_insert [] [] hselects
  refine ⟨hcap, ?_, analyzeFiles_insert_grows _ _ .python _ _ _ rfl hcap⟩
  rw [List.append_nil, analyzeFiles_of_language rfl
    ⟨repeatedFile "b.py", List.mem_cons_self, hselects⟩]
  unfold Options.conclude ProjectIndex.ofReports ProjectIndex.inPathOrder
  rw [hselected, List.mergeSort_singleton]
  decide +kernel

end CallGraph
