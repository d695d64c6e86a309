import CallGraph.Extract.Analysis
import CallGraph.Proofs.GraphEdges
import Mathlib.Data.List.Induction

/-!
# What the report on a file holds

A file may define a name many times, in any order among other names.  Its
report keeps the first record of each name and, under that name, everything
that any of its definitions calls (`analyzeText_extracts`).

Records and calls follow different rules for a name that comes again: the
record is dropped, the calls are added.  Seen from the end of the list, a
definition with a known name leaves the records alone and one with a new name
adds its record last (`firstByName_concat`); the calls of a name are the union
over all its definitions, and a name is listed exactly when that union has a
member (`get?_fileCalls`).
-/

namespace CallGraph

theorem guard_bind {α : Type} (p : Prop) [Decidable p] (o : Option α) :
    (guard p >>= fun _ => o) = if p then o else none := by
  by_cases h : p
  · rw [guard, if_pos h, if_pos h]
    rfl
  · rw [guard, if_neg h, if_neg h]
    rfl

/-- What a definition in Python is made of. -/
theorem PythonSource.definitionAt?_some {t : SyntaxTree} {path : String}
    {includePrivate : Bool} {i : Nat} {d : Definition}
    (h : definitionAt? t path includePrivate i = some d) :
    d.node = i ∧ d.info.filePath = path := by
  unfold definitionAt? at h
  obtain ⟨_, _, h⟩ := Option.bind_eq_some_iff.mp h
  obtain ⟨_, _, hd⟩ := Option.bind_eq_some_iff.mp h
  obtain rfl := Option.some.inj hd
  exact ⟨rfl, rfl⟩

/-- What a definition in C and C++ is made of: its name and its class come from
the segments of the declared name. -/
theorem CSource.definitionAt?_some {t : SyntaxTree} {language : Language}
    {path : String} {i : Nat} {d : Definition}
    (h : definitionAt? t language path i = some d) :
    d.node = i ∧ d.info.filePath = path ∧
      ∃ segments, Declarator.declaredName? t i = some segments ∧
        (d.info.name, d.info.className) =
          nameAndClass t language i segments := by
  unfold definitionAt? at h
  obtain ⟨_, _, h⟩ := Option.bind_eq_some_iff.mp h
  obtain ⟨segments, hsegments, hd⟩ := Option.bind_eq_some_iff.mp h
  obtain rfl := Option.some.inj hd
  exact ⟨rfl, rfl, segments, hsegments, rfl⟩

/-- In every language, definitions are read node by node, each from its own
node and with the path of the file. -/
theorem Language.definitions_eq_filterMap (language : Language)
    (t : SyntaxTree) (path : String) (includePrivate : Bool) :
    ∃ read : Nat → Option Definition,
      language.definitions t path includePrivate =
          (t.findKind SyntaxTree.root "function_definition").filterMap read ∧
        ∀ i d, read i = some d → d.node = i ∧ d.info.filePath = path := by
  cases language with
  | python =>
      exact ⟨PythonSource.definitionAt? t path includePrivate, rfl,
        fun _ _ h => PythonSource.definitionAt?_some h⟩
  | c =>
      refine ⟨CSource.definitionAt? t .c path, rfl, fun _ _ h => ?_⟩
      obtain ⟨hnode, hpath, _⟩ := CSource.definitionAt?_some h
      exact ⟨hnode, hpath⟩
  | cpp =>
      refine ⟨CSource.definitionAt? t .cpp path, rfl, fun _ _ h => ?_⟩
      obtain ⟨hnode, hpath, _⟩ := CSource.definitionAt?_some h
      exact ⟨hnode, hpath⟩

/-- A definition of a file stands at one of its function nodes and has the path
of the file. -/
theorem Language.node_of_mem_definitions {language : Language}
    {t : SyntaxTree} {path : String} {includePrivate : Bool} {d : Definition}
    (h : d ∈ language.definitions t path includePrivate) :
    d.node ∈ t.findKind SyntaxTree.root "function_definition" ∧
      d.info.filePath = path := by
  obtain ⟨read, hlist, hread⟩ :=
    language.definitions_eq_filterMap t path includePrivate
  rw [hlist] at h
  obtain ⟨i, hi, hd⟩ := List.mem_filterMap.mp h
  obtain ⟨rfl, hpath⟩ := hread i d hd
  exact ⟨hi, hpath⟩

/-- Every definition carries the path of the file it was read from. -/
theorem Language.filePath_of_mem_definitions {language : Language}
    {t : SyntaxTree} {path : String} {includePrivate : Bool} {d : Definition}
    (h : d ∈ language.definitions t path includePrivate) :
    d.info.filePath = path :=
  (node_of_mem_definitions h).2

/-- A record with a known name is dropped, one with a new name comes last. -/
theorem firstByName_concat (fs : List FunctionInfo) (f : FunctionInfo) :
    firstByName (fs ++ [f]) =
      if f.name ∈ fs.map (·.name) then firstByName fs
      else firstByName fs ++ [f] := by
  induction fs with
  | nil => simp [firstByName]
  | cons g fs ih =>
      have hstep : firstByName (g :: fs ++ [f]) =
          g :: (firstByName (fs ++ [f])).filter fun h => h.name ≠ g.name := rfl
      rw [hstep, ih, List.map_cons]
      by_cases hf : f.name ∈ fs.map (·.name)
      · rw [if_pos hf, if_pos (List.mem_cons_of_mem g.name hf), firstByName]
      · rw [if_neg hf, List.filter_append]
        by_cases hg : f.name = g.name
        · simp [firstByName, hg]
        · have hnew : f.name ∉ g.name :: fs.map (·.name) := by
            rw [List.mem_cons]
            exact not_or.mpr ⟨hg, hf⟩
          rw [if_neg hnew]
          simp [firstByName, hg]

/-- Among the records that are kept, a name finds what it finds among all.  A
record with an earlier one of its name is never asked for. -/
theorem find?_firstByName (fs : List FunctionInfo) (name : String) :
    ((firstByName fs).find? fun f => f.name = name) =
      fs.find? fun f => f.name = name := by
  induction fs using List.reverseRecOn with
  | nil => rfl
  | append_singleton fs f ih =>
      rw [firstByName_concat, List.find?_append]
      by_cases hf : f.name ∈ fs.map (·.name)
      · rw [if_pos hf, ih]
        by_cases hname : f.name = name
        · have hsome : (fs.find? fun f => f.name = name).isSome := by
            obtain ⟨g, hg, hgname⟩ := List.mem_map.mp hf
            rw [List.find?_isSome]
            exact ⟨g, hg, decide_eq_true (hgname.trans hname)⟩
          rw [Option.or_of_isSome hsome]
        · simp [hname]
      · rw [if_neg hf, List.find?_append, ih]

/-- Every name keeps a record. -/
theorem exists_mem_firstByName {fs : List FunctionInfo} {f : FunctionInfo}
    (h : f ∈ fs) : ∃ g ∈ firstByName fs, g.name = f.name := by
  have hfound :
      ((firstByName fs).find? fun g => g.name = f.name).isSome := by
    rw [find?_firstByName, List.find?_isSome]
    exact ⟨f, h, decide_eq_true rfl⟩
  obtain ⟨g, hg, hname⟩ := List.find?_isSome.mp hfound
  exact ⟨g, hg, of_decide_eq_true hname⟩

/-- Keeping the first function of each name keeps the order. -/
theorem firstByName_sublist (fs : List FunctionInfo) :
    (firstByName fs).Sublist fs := by
  induction fs with
  | nil => exact List.Sublist.refl []
  | cons f fs ih => exact (List.filter_sublist.trans ih).cons_cons f

theorem firstByName_nodup (fs : List FunctionInfo) :
    ((firstByName fs).map (·.name)).Nodup := by
  induction fs with
  | nil => exact List.nodup_nil
  | cons f fs ih =>
      rw [firstByName, List.map_cons, List.nodup_cons]
      constructor
      · intro hmem
        obtain ⟨g, hg, hname⟩ := List.mem_map.mp hmem
        exact of_decide_eq_true (List.mem_filter.mp hg).2 hname
      · exact ih.sublist (List.filter_sublist.map _)

/-- The definitions of a list whose name no earlier definition has. -/
def firstDefinitions (definitions : List Definition) : List Definition :=
  (definitions.zipIdx.filter fun p =>
    (definitions.take p.2).all fun earlier =>
      earlier.info.name ≠ p.1.info.name).map Prod.fst

/-- A definition at the end of a list counts only if its name is new. -/
theorem firstDefinitions_concat (definitions : List Definition)
    (d : Definition) :
    firstDefinitions (definitions ++ [d]) =
      if d.info.name ∈ definitions.map (·.info.name) then
        firstDefinitions definitions
      else firstDefinitions definitions ++ [d] := by
  have hbefore : (definitions.zipIdx.filter fun p =>
        ((definitions ++ [d]).take p.2).all fun earlier =>
          earlier.info.name ≠ p.1.info.name) =
      definitions.zipIdx.filter fun p =>
        (definitions.take p.2).all fun earlier =>
          earlier.info.name ≠ p.1.info.name := by
    refine List.filter_congr fun p hp => ?_
    have hindex := (List.mem_zipIdx hp).2.1
    rw [List.take_append_of_le_length (by omega)]
  unfold firstDefinitions
  rw [List.zipIdx_append, List.filter_append, hbefore, List.map_append,
    List.zipIdx_singleton, Nat.zero_add, List.filter_cons,
    List.take_left' rfl, List.filter_nil]
  by_cases hd : d.info.name ∈ definitions.map (·.info.name)
  · have hknown : ¬ definitions.all (fun earlier =>
        earlier.info.name ≠ d.info.name) = true := by
      simpa using hd
    rw [if_neg hknown, if_pos hd, List.map_nil, List.append_nil]
  · have hnew : definitions.all (fun earlier =>
        earlier.info.name ≠ d.info.name) = true := by
      simpa using hd
    rw [if_pos hnew, if_neg hd, List.map_singleton]

/-- **Records.**  The records that are kept are those of the definitions whose
name did not come earlier. -/
theorem firstByName_eq_firstDefinitions (definitions : List Definition) :
    firstByName (definitions.map (·.info)) =
      (firstDefinitions definitions).map (·.info) := by
  induction definitions using List.reverseRecOn with
  | nil => rfl
  | append_singleton definitions d ih =>
      rw [List.map_append, List.map_singleton, firstByName_concat, ih,
        firstDefinitions_concat, List.map_map]
      by_cases hd : d.info.name ∈ definitions.map (·.info.name)
      · rw [if_pos hd]
        exact if_pos hd
      · rw [if_neg hd, List.map_append]
        exact if_neg hd

theorem NameSet.eq_empty_iff {s : NameSet} :
    s = .empty ↔ ∀ x, x ∉ s := by
  constructor
  · intro h x hx
    rw [h] at hx
    exact NameSet.not_mem_empty x hx
  · intro h
    apply NameSet.ext
    intro x
    exact iff_of_false (h x) (NameSet.not_mem_empty x)

theorem NameSet.isEmpty_iff {s : NameSet} :
    s.isEmpty = true ↔ s = .empty := by
  rw [NameSet.eq_empty_iff]
  unfold NameSet.isEmpty
  rw [List.isEmpty_iff, List.eq_nil_iff_forall_not_mem]
  rfl

/-- Dropping the callers that call nothing leaves the other entries as they
are. -/
theorem CallMap.mem_entries_dropEmpty {m : CallMap} {e : String × NameSet} :
    e ∈ m.dropEmpty.entries ↔ e ∈ m.entries ∧ e.2 ≠ .empty := by
  unfold dropEmpty
  rw [List.mem_filter, Bool.not_eq_true', ← Bool.not_eq_true,
    NameSet.isEmpty_iff]

/-- The names that the definitions of `name` may call: the union of the
candidates over all their calls. -/
def Language.calledFrom (language : Language) (t : SyntaxTree)
    (definitions : List Definition) (name : String) : NameSet :=
  NameSet.unions (((definitions.filter fun d => d.info.name = name).flatMap
    (language.callSites t)).map (·.candidates))

section FileCalls

variable {language : Language} {t : SyntaxTree} {definitions : List Definition}

/-- A name calls what the call sites of all its definitions may refer to. -/
theorem Language.mem_calledFrom {name target : String} :
    target ∈ language.calledFrom t definitions name ↔
      ∃ d ∈ definitions, d.info.name = name ∧
        ∃ site ∈ language.callSites t d, target ∈ site.candidates := by
  simp only [calledFrom, NameSet.mem_unions, List.mem_map, List.mem_flatMap,
    List.mem_filter, decide_eq_true_eq]
  constructor
  · intro h
    obtain ⟨_, ⟨site, ⟨d, ⟨hd, hname⟩, hsite⟩, rfl⟩, htarget⟩ := h
    exact ⟨d, hd, hname, site, hsite, htarget⟩
  · intro h
    obtain ⟨d, hd, hname, site, hsite, htarget⟩ := h
    exact ⟨_, ⟨site, ⟨d, ⟨hd, hname⟩, hsite⟩, rfl⟩, htarget⟩

/-- Uniting the calls of each definition first changes nothing. -/
theorem calledBy_definitions (name : String) :
    CallMap.calledBy (definitions.map fun d =>
        (d.info.name,
          NameSet.unions ((language.callSites t d).map (·.candidates)))) name =
      language.calledFrom t definitions name := by
  apply NameSet.ext
  intro target
  rw [CallMap.mem_calledBy, Language.mem_calledFrom]
  constructor
  · intro h
    obtain ⟨_, hpair, hname, htarget⟩ := h
    obtain ⟨d, hd, rfl⟩ := List.mem_map.mp hpair
    obtain ⟨_, hset, hmem⟩ := NameSet.mem_unions.mp htarget
    obtain ⟨site, hsite, rfl⟩ := List.mem_map.mp hset
    exact ⟨d, hd, hname, site, hsite, hmem⟩
  · intro h
    obtain ⟨d, hd, hname, site, hsite, hmem⟩ := h
    refine ⟨_, List.mem_map_of_mem hd, hname, NameSet.mem_unions.mpr ?_⟩
    exact ⟨_, List.mem_map_of_mem hsite, hmem⟩

/-- A name that calls something is defined. -/
theorem exists_definition_of_calledFrom {name : String}
    (h : language.calledFrom t definitions name ≠ .empty) :
    ∃ d ∈ definitions, d.info.name = name := by
  rw [ne_eq, NameSet.eq_empty_iff, not_forall_not] at h
  obtain ⟨target, htarget⟩ := h
  obtain ⟨d, hd, hname, _⟩ := Language.mem_calledFrom.mp htarget
  exact ⟨d, hd, hname⟩

/-- **Calls.**  The map of a file lists a name with everything its definitions
call, unless that is nothing. -/
theorem get?_fileCalls {name : String} {targets : NameSet} :
    (fileCalls language t definitions).get? name = some targets ↔
      targets = language.calledFrom t definitions name ∧
        targets ≠ .empty := by
  unfold fileCalls
  rw [← CallMap.mem_entries_iff, CallMap.mem_entries_dropEmpty,
    CallMap.mem_entries_ofPairs, calledBy_definitions]
  constructor
  · intro h
    obtain ⟨⟨_, htargets⟩, hne⟩ := h
    exact ⟨htargets, hne⟩
  · intro h
    obtain ⟨rfl, hne⟩ := h
    obtain ⟨d, hd, hname⟩ := exists_definition_of_calledFrom hne
    exact ⟨⟨⟨_, List.mem_map_of_mem hd, hname⟩, rfl⟩, hne⟩

/-- A name is missing from the calls of a file exactly when it calls nothing.
-/
theorem get?_fileCalls_eq_none {name : String} :
    (fileCalls language t definitions).get? name = none ↔
      language.calledFrom t definitions name = .empty := by
  rw [Option.eq_none_iff_forall_ne_some]
  simp only [ne_eq, get?_fileCalls, not_and, not_not, forall_eq]

/-- The targets that the calls of a file list for a name are those that it
calls. -/
theorem targetsOf_fileCalls (name : String) :
    (fileCalls language t definitions).targetsOf name =
      language.calledFrom t definitions name := by
  unfold CallMap.targetsOf
  cases hget : (fileCalls language t definitions).get? name with
  | none => exact (get?_fileCalls_eq_none.mp hget).symm
  | some targets => exact (get?_fileCalls.mp hget).1

end FileCalls

/-- A report has what the definitions of a file give: the record of each
definition whose name did not come earlier, and for each name the union of the
candidates over all the calls of all its definitions, where a name is left out
exactly if that union is empty. -/
structure FileReport.Extracts (report : FileReport) (path : String)
    (definitions : List Definition) (calledFrom : String → NameSet) :
    Prop where
  functions_first :
    report.functions = (firstDefinitions definitions).map (·.info)
  names_distinct : (report.functions.map (·.name)).Nodup
  callers_defined : ∀ e ∈ report.calls.entries,
    ∃ f ∈ report.functions, f.name = e.1
  calls_exact : ∀ name targets, report.calls.get? name = some targets →
    targets = calledFrom name
  calls_nonempty : ∀ e ∈ report.calls.entries, e.2 ≠ .empty
  absent_iff : ∀ name, report.calls.get? name = none ↔
    calledFrom name = .empty
  own_path : ∀ f ∈ report.functions, f.filePath = path

/-- A file without a failure is reported from its tree. -/
theorem analyzeText_of_sound {grammar : Grammar} {includePrivate : Bool}
    {language : Language} {path text : String}
    (h : (analyzeText grammar includePrivate language path text).failure =
      none) :
    analyzeText grammar includePrivate language path text =
      reportOfTree language path includePrivate (grammar language text) := by
  unfold analyzeText at h ⊢
  dsimp only at h ⊢
  split
  · rename_i fault hfault
    rw [hfault] at h
    exact absurd h (by simp [FileReport.failed])
  · rfl

/-- **Extraction.**  The report on a file that can be analysed holds the first
record of each name and all the calls of each name. -/
theorem analyzeText_extracts (grammar : Grammar) (includePrivate : Bool)
    (language : Language) (path text : String)
    (h : (analyzeText grammar includePrivate language path text).failure =
      none) :
    (analyzeText grammar includePrivate language path text).Extracts path
      (language.definitions (grammar language text) path includePrivate)
      (language.calledFrom (grammar language text)
        (language.definitions (grammar language text) path
          includePrivate)) := by
  rw [analyzeText_of_sound h]
  have hentry : ∀ e ∈ (reportOfTree language path includePrivate
      (grammar language text)).calls.entries,
      (reportOfTree language path includePrivate
        (grammar language text)).calls.get? e.1 = some e.2 :=
    fun _ he => CallMap.mem_entries_iff.mp he
  constructor
  case functions_first => exact firstByName_eq_firstDefinitions _
  case names_distinct => exact firstByName_nodup _
  case callers_defined =>
    intro e he
    obtain ⟨hcalled, hne⟩ := get?_fileCalls.mp (hentry e he)
    rw [hcalled] at hne
    obtain ⟨d, hd, hname⟩ := exists_definition_of_calledFrom hne
    obtain ⟨f, hf, hfname⟩ :=
      exists_mem_firstByName (List.mem_map_of_mem (f := (·.info)) hd)
    exact ⟨f, hf, hfname.trans hname⟩
  case calls_exact =>
    intro name targets hget
    exact (get?_fileCalls.mp hget).1
  case calls_nonempty =>
    intro e he
    exact (get?_fileCalls.mp (hentry e he)).2
  case absent_iff =>
    intro name
    exact get?_fileCalls_eq_none
  case own_path =>
    intro f hf
    obtain ⟨d, hd, rfl⟩ := List.mem_map.mp ((firstByName_sublist _).mem hf)
    exact Language.filePath_of_mem_definitions hd

/-- The nodes of a line such as `def f(): g()`. -/
def oneLineNodes (line start : Nat) : List Node := [
  ⟨1, "function_definition", none, true, false, start, start + 12, line⟩,
  ⟨2, "identifier", some "name", true, false, start + 4, start + 5, line⟩,
  ⟨2, "parameters", some "parameters", true, false, start + 5, start + 7,
    line⟩,
  ⟨2, "block", some "body", true, false, start + 9, start + 12, line⟩,
  ⟨3, "expression_statement", none, true, false, start + 9, start + 12, line⟩,
  ⟨4, "call", none, true, false, start + 9, start + 12, line⟩,
  ⟨5, "identifier", some "function", true, false, start + 9, start + 10,
    line⟩]

/-- Nodes some levels further down. -/
def deepen (levels : Nat) (nodes : List Node) : List Node :=
  nodes.map fun n => { n with depth := n.depth + levels }

/-- The tree of a text that defines `f`, then `g`, then `f` again. -/
def repeatedTree : SyntaxTree where
  source := "def f(): g()\ndef g(): f()\ndef f(): h()\n"
  nodes := (⟨0, "module", none, true, false, 0, 39, 1⟩ ::
    (oneLineNodes 1 0 ++ oneLineNodes 2 13 ++ oneLineNodes 3 26)).toArray
  preorder := by decide

/-- A file in which a name is defined a second time after another one. -/
theorem analyzeText_extracts_repeated :
    (analyzeText (fun _ _ => repeatedTree) false .python "a.py"
        repeatedTree.source).failure = none ∧
      (analyzeText (fun _ _ => repeatedTree) false .python "a.py"
        repeatedTree.source).Extracts "a.py"
        (Language.python.definitions repeatedTree "a.py" false)
        (Language.python.calledFrom repeatedTree
          (Language.python.definitions repeatedTree "a.py" false)) ∧
      (Language.python.definitions repeatedTree "a.py" false).map
        (·.info.name) = ["f", "g", "f"] := by
  have hsound : (analyzeText (fun _ _ => repeatedTree) false .python "a.py"
      repeatedTree.source).failure = none := by
    decide +kernel
  refine ⟨hsound, ?_, by decide +kernel⟩
  exact analyzeText_extracts (fun _ _ => repeatedTree) false .python "a.py"
    repeatedTree.source hsound

end CallGraph
