import CallGraph.Proofs.CheckedC
import CallGraph.Proofs.CheckedPython
import Mathlib.Data.Nat.Find

/-!
# When the analysis of a file fails

The analysis of one file with every read checked: its tree is entered node by
node, its definitions, calls and outline are read, and the last segments of
qualified names are cut off.  Whatever the kinds, roles and ranges of the nodes
are, no read lapses, and the checked analysis gives what the plain one gives
(`analyzeText_eq`); all it needs is that the tree has a root.

So only the text and the broken nodes of the tree decide whether a file fails
(`analyzeText_failure`): a zero character always, and a broken node in Python,
where the first one gives the line.
-/

namespace CallGraph

namespace SyntaxTree

variable {t : SyntaxTree}

/-- A broken node before which no node is broken. -/
structure IsFirstBroken (t : SyntaxTree) (i : Nat) : Prop where
  listed : i < t.size
  broken : (t.node i).broken = true
  sound_before : ∀ j < i, (t.node j).broken = false

/-- A tree with a broken node has a first one. -/
theorem exists_isFirstBroken (h : ∃ i < t.size, (t.node i).broken = true) :
    ∃ i, t.IsFirstBroken i := by
  obtain ⟨hlisted, hbroken⟩ := Nat.find_spec h
  refine ⟨Nat.find h, hlisted, hbroken, fun j hj => ?_⟩
  have hnot := Nat.find_min h hj
  exact Bool.eq_false_iff.mpr fun hbad =>
    hnot ⟨Nat.lt_trans hj hlisted, hbad⟩

theorem getElem_toList_nodes {i : Nat} (h : i < t.nodes.toList.length) :
    t.nodes.toList[i] = t.node i := by
  rw [node, Array.getD_eq_getD_getElem?, Array.getElem?_eq_getElem h,
    Option.getD_some, Array.getElem_toList]

/-- The line that a tree reports is that of its first broken node. -/
theorem errorLine?_of_isFirstBroken {i : Nat} (h : t.IsFirstBroken i) :
    t.errorLine? = some (t.line i) := by
  have hfound : t.nodes.toList.find? (·.broken) = some (t.node i) := by
    refine List.find?_eq_some_iff_getElem.mpr ⟨h.broken, i, h.listed, ?_, ?_⟩
    · exact getElem_toList_nodes h.listed
    · intro j hj
      rw [getElem_toList_nodes, h.sound_before j hj]
      rfl
  rw [errorLine?, hfound, Option.map_some, line]

/-- A tree has a line with a broken node as soon as it has such a node. -/
theorem errorLine?_eq_none_iff :
    t.errorLine? = none ↔ ¬∃ i < t.size, (t.node i).broken = true := by
  constructor
  · intro hnone hbroken
    obtain ⟨i, hi⟩ := exists_isFirstBroken hbroken
    rw [errorLine?_of_isFirstBroken hi] at hnone
    cases hnone
  · intro hsound
    rw [errorLine?, Option.map_eq_none_iff, List.find?_eq_none]
    intro n hn hbroken
    obtain ⟨i, hi, rfl⟩ := List.getElem_of_mem hn
    exact hsound ⟨i, hi, by rwa [← getElem_toList_nodes hi]⟩

end SyntaxTree

section Faults

variable {language : Language} {text : String} {t : SyntaxTree}

/-- A text with a zero character is refused as binary, in every language. -/
theorem fileFault?_of_zero (h : '\x00' ∈ text.toList) :
    fileFault? language text t = some .binary :=
  if_pos h

/-- A text with no zero character is refused for broken syntax in Python and is
never refused in C or C++. -/
theorem fileFault?_of_ne_zero (h : '\x00' ∉ text.toList) :
    fileFault? language text t =
      if language = .python then t.errorLine?.map .brokenSyntax else none := by
  rw [fileFault?, if_neg h]
  cases language <;> rfl

/-- A file has a fault exactly when its text holds a zero character or, in
Python, its tree a broken node. -/
theorem fileFault?_ne_none_iff :
    fileFault? language text t ≠ none ↔ '\x00' ∈ text.toList ∨
      language = .python ∧ ∃ i < t.size, (t.node i).broken = true := by
  by_cases hzero : '\x00' ∈ text.toList
  · simp [fileFault?_of_zero hzero, hzero]
  · rw [fileFault?_of_ne_zero hzero]
    split
    · rename_i hpython
      rw [Ne, Option.map_eq_none_iff, SyntaxTree.errorLine?_eq_none_iff,
        not_not]
      simp [hzero, hpython]
    · rename_i hother
      simp [hzero, hother]

end Faults

section Reports

variable (grammar : Grammar) (includePrivate : Bool) (language : Language)
  (path text : String)

/-- A file with a fault has a report that holds nothing else. -/
theorem analyzeText_of_fault {fault : FileFault}
    (h : fileFault? language text (grammar language text) = some fault) :
    analyzeText grammar includePrivate language path text =
      .failed path language (.ofFault path fault) := by
  unfold analyzeText
  dsimp only
  rw [h]

/-- The failure of an analysis is the file's fault under the file's path. -/
theorem failure_analyzeText :
    (analyzeText grammar includePrivate language path text).failure =
      (fileFault? language text (grammar language text)).map
        (.ofFault path) := by
  cases h : fileFault? language text (grammar language text) with
  | some fault => rw [analyzeText_of_fault _ _ _ _ _ h]; rfl
  | none =>
      unfold analyzeText
      dsimp only
      rw [h]
      rfl

end Reports

namespace Checked

/-- The last items of a list, as many as wanted. -/
def lastItems (xs : List String) (wanted : Nat) : Checked (List String) :=
  if wanted ≤ xs.length then pure (xs.drop (xs.length - wanted))
  else throw (.item xs.length)

/-- The names that the segments of a qualified name stand for. -/
def qualifiedNames (segments : List String) : Checked (List String) := do
  match segments.getLast? with
  | none => return []
  | some last =>
    if 2 < segments.length then
      return [last, Text.joinColons segments,
        Text.joinColons (← lastItems segments 2)]
    else return [last, Text.joinColons segments]

/-- The names of the functions that a callee may mean. -/
def candidates (language : Language) (imports : ImportMap)
    (enclosing : Option String) : Callee → Checked NameSet
  | .qualified segments => do
    return NameSet.ofList (← qualifiedNames (segments.filter (· ≠ "")))
  | callee => return callee.candidates language imports enclosing

section File

variable (language : Language) (t : SyntaxTree)

/-- The names bound by the imports of a file. -/
def fileImports : Checked ImportMap :=
  match language with
  | .python => importMap t
  | .c | .cpp => return {}

/-- The definitions of a file. -/
def fileDefinitions (path : String) (includePrivate : Bool) :
    Checked (List Definition) :=
  match language with
  | .python => Python.definitions t path includePrivate
  | .c | .cpp => C.definitions t language path

/-- The outline of a file. -/
def fileOutline : Checked Outline :=
  match language with
  | .python => Python.outline t
  | .c | .cpp => C.outline t language

/-- The shape of a callee. -/
def calleeShape (i : Nat) : Checked Callee :=
  match language with
  | .python => Python.calleeShape t i
  | .c | .cpp => C.calleeShape t i

/-- The call at a node, in the body of a definition. -/
def siteAt? (imports : ImportMap) (d : Definition) (call : Nat) :
    Checked (Option CallSite) := do
  (← childByField? t call "function").mapM fun callee => do
    let shape ← calleeShape language t callee
    return {
      caller := d.info.name
      raw := language.callSyntax.quote (← text t callee)
      line := ← line t call
      callee := shape
      candidates := ← candidates language imports d.info.className shape }

/-- The calls in the body of a definition. -/
def callSites (imports : ImportMap) (d : Definition) :
    Checked (List CallSite) := do
  match ← childByField? t d.node "body" with
  | none => return []
  | some body =>
    (← findKind t body language.callSyntax.callKind).filterMapM
      (siteAt? language t imports d)

/-- The report of a file with a usable tree. -/
def reportOfTree (path : String) (includePrivate : Bool) :
    Checked FileReport := do
  let imports ← fileImports language t
  let definitions ← fileDefinitions language t path includePrivate
  let called ← definitions.mapM fun d => do
    let sites ← callSites language t imports d
    return (d.info.name, NameSet.unions (sites.map (·.candidates)))
  return {
    path, language
    functions := firstByName (definitions.map (·.info))
    calls := (CallMap.ofPairs called).dropEmpty
    outline := ← fileOutline language t }

end File

/-- Analyses the text of one file.  The tree of a text with a zero character is
not looked at; any other tree is entered before its broken nodes count. -/
def analyzeText (grammar : Grammar) (includePrivate : Bool)
    (language : Language) (path text : String) : Checked FileReport := do
  if '\x00' ∈ text.toList then
    return .failed path language (.ofFault path .binary)
  else
    let t := grammar language text
    let _ ← enterAll t
    match fileFault? language text t with
    | some fault => return .failed path language (.ofFault path fault)
    | none => reportOfTree language t path includePrivate

/-- The report of a checked analysis: a lapse makes the file fail. -/
def toReport (path : String) (language : Language) :
    Checked FileReport → FileReport
  | .ok report => report
  | .error _ => .failed path language (.parse path "internal analyzer failure")

/-- The candidates of a qualified name read the last two segments only where
there are two. -/
theorem qualifiedNames_eq (segments : List String) :
    qualifiedNames segments = pure (Callee.qualifiedNames segments) := by
  rw [qualifiedNames, Callee.qualifiedNames]
  cases segments.getLast? with
  | none => rfl
  | some last =>
      dsimp only
      split
      · rename_i hlong
        rw [lastItems, if_pos (Nat.le_of_lt hlong), pure_bind]
        rfl
      · rfl

/-- Resolving a callee reads no segment that is not there. -/
theorem candidates_eq (language : Language) (imports : ImportMap)
    (enclosing : Option String) (callee : Callee) :
    candidates language imports enclosing callee =
      pure (callee.candidates language imports enclosing) := by
  cases callee with
  | qualified segments => rw [candidates, qualifiedNames_eq, pure_bind]; rfl
  | name => rfl
  | member => rfl
  | subscript => rfl
  | unsupported => rfl

section File

variable {language : Language} {t : SyntaxTree}

/-- Every read of the imports of a file is in range. -/
theorem fileImports_eq (h : SyntaxTree.root < t.size) :
    fileImports language t = pure (language.importMap t) := by
  cases language with
  | python => exact importMap_eq h
  | c => rfl
  | cpp => rfl

/-- Every read of the definitions of a file is in range, in every language. -/
theorem fileDefinitions_eq (path : String) (includePrivate : Bool)
    (h : SyntaxTree.root < t.size) :
    fileDefinitions language t path includePrivate =
      pure (language.definitions t path includePrivate) := by
  cases language with
  | python => exact Python.definitions_eq path includePrivate h
  | c => exact C.definitions_eq .c path h
  | cpp => exact C.definitions_eq .cpp path h

theorem fileOutline_eq (h : SyntaxTree.root < t.size) :
    fileOutline language t = pure (language.outline t) := by
  cases language with
  | python => exact Python.outline_eq h
  | c => exact C.outline_eq .c h
  | cpp => exact C.outline_eq .cpp h

theorem calleeShape_eq {i : Nat} (h : i < t.size) :
    calleeShape language t i = pure (language.callSyntax.shape t i) := by
  cases language with
  | python => exact Python.calleeShape_eq h
  | c => exact C.calleeShape_eq h
  | cpp => exact C.calleeShape_eq h

/-- Every read of the calls inside a definition is in range, their candidates
included. -/
theorem callSites_eq {d : Definition} (h : d.node < t.size) :
    callSites language t (language.importMap t) d =
      pure (language.callSites t d) := by
  rw [callSites, Language.callSites, CallSyntax.sites, childByField?_eq _ h,
    pure_bind]
  cases hbody : t.childByField? d.node "body" with
  | none => rfl
  | some body =>
      dsimp only
      rw [findKind_eq _ (lt_size_of_childByField? hbody).2, pure_bind]
      refine filterMapM_eq fun call hcall => ?_
      have hsize := (t.mem_descendants (List.mem_filter.mp hcall).1).2
      refine mapChild_eq "function" hsize fun callee hcallee => ?_
      rw [calleeShape_eq hcallee.2, pure_bind, text_eq hcallee.2, pure_bind,
        line_eq hsize, pure_bind, candidates_eq, pure_bind]

/-- A tree with a root gives the same report with every read checked: none is
out of range. -/
theorem reportOfTree_eq (path : String) (includePrivate : Bool)
    (h : SyntaxTree.root < t.size) :
    reportOfTree language t path includePrivate =
      pure (CallGraph.reportOfTree language path includePrivate t) := by
  have hlisted : ∀ d ∈ language.definitions t path includePrivate,
      d.node < t.size := fun d hd =>
    (SyntaxTree.mem_findKind_root.mp (Language.node_of_mem_definitions hd).1).1
  rw [reportOfTree, fileImports_eq h, pure_bind, fileDefinitions_eq _ _ h,
    pure_bind, mapM_eq fun d hd => by
      rw [callSites_eq (hlisted d hd), pure_bind],
    pure_bind, fileOutline_eq h, pure_bind]
  rfl

end File

/-- **No read lapses** in the analysis of a file whose tree has a root. -/
theorem analyzeText_eq (grammar : Grammar) (includePrivate : Bool)
    (language : Language) (path text : String)
    (h : SyntaxTree.root < (grammar language text).size) :
    analyzeText grammar includePrivate language path text =
      pure (CallGraph.analyzeText grammar includePrivate language path text) := by
  unfold analyzeText CallGraph.analyzeText
  split
  · rename_i hzero
    dsimp only
    rw [fileFault?_of_zero hzero]
  · dsimp only
    rw [enterAll_eq, pure_bind]
    cases fileFault? language text (grammar language text) with
    | some fault => rfl
    | none => exact reportOfTree_eq path includePrivate h

/-- A tree without a root makes a lapse: the checks are not idle. -/
example : analyzeText (fun _ => .empty) false .python "a.py" "" =
    .error (.node 0) := by cbv

end Checked

/-- When and how a file fails.  It fails because of a zero character in its
text or, in Python, because of a broken node; of two reasons the zero character
counts, and of the broken nodes the first.  Nothing else is reported of it. -/
structure FileReport.FailsOnlyFor (report : FileReport) (language : Language)
    (path text : String) (t : SyntaxTree) : Prop where
  failed_iff : report.failure ≠ none ↔ '\x00' ∈ text.toList ∨
    language = .python ∧ ∃ i < t.size, (t.node i).broken = true
  of_zero : '\x00' ∈ text.toList →
    report.failure = some (.parse path "binary or non-text content")
  of_broken : '\x00' ∉ text.toList → language = .python →
    ∀ i, t.IsFirstBroken i →
      report.failure = some (.parse path s!"syntax error at line {t.line i}")
  never_internal :
    report.failure ≠ some (.parse path "internal analyzer failure")
  empty_of_failed : report.failure ≠ none →
    report.functions = [] ∧ report.calls = .empty ∧ report.outline = {}

/-- A text with a given first character, whatever follows it, is not one that
begins otherwise. -/
theorem append_ne_of_head? {s rest u : String} {c : Char}
    (hs : s.toList.head? = some c) (hu : u.toList.head? ≠ some c) :
    s ++ rest ≠ u := by
  rintro rfl
  rw [String.toList_append, List.head?_append, hs] at hu
  exact hu rfl

/-- No fault reads like a lapse: the texts differ in their first letter. -/
theorem message_ne_internal (fault : FileFault) :
    fault.message ≠ "internal analyzer failure" := by
  cases fault with
  | binary => decide
  | notUtf8 => decide
  | brokenSyntax line =>
      exact append_ne_of_head? (c := 's') (by decide) (by decide)
  | unreadable cause =>
      exact append_ne_of_head? (c := 'u') (by decide) (by decide)

/-- An analysis fails only for a zero character or, in Python, for broken
syntax. -/
theorem failsOnlyFor_analyzeText (grammar : Grammar) (includePrivate : Bool)
    (language : Language) (path text : String) :
    (analyzeText grammar includePrivate language path text).FailsOnlyFor
      language path text (grammar language text) := by
  have hfailure := failure_analyzeText grammar includePrivate language path text
  constructor
  case failed_iff =>
    rw [hfailure, Ne, Option.map_eq_none_iff]
    exact fileFault?_ne_none_iff
  case of_zero =>
    intro hzero
    rw [hfailure, fileFault?_of_zero hzero]
    rfl
  case of_broken =>
    intro hzero hpython i hfirst
    rw [hfailure, fileFault?_of_ne_zero hzero, if_pos hpython,
      SyntaxTree.errorLine?_of_isFirstBroken hfirst]
    rfl
  case never_internal =>
    intro hinternal
    rw [hfailure] at hinternal
    obtain ⟨fault, -, hmessage⟩ := Option.map_eq_some_iff.mp hinternal
    exact message_ne_internal fault (Failure.parse.inj hmessage).2
  case empty_of_failed =>
    intro hfailed
    rw [hfailure, Ne, Option.map_eq_none_iff] at hfailed
    obtain ⟨fault, hfault⟩ := Option.ne_none_iff_exists'.mp hfailed
    rw [analyzeText_of_fault _ _ _ _ _ hfault]
    exact ⟨rfl, rfl, rfl⟩

/-- **Failures of files.**  The analysis of a text whose tree has a root never
lapses, so that its report is the one without checks, and it fails for the two
reasons there are and no other. -/
theorem analyzeText_failure (grammar : Grammar) (includePrivate : Bool)
    (language : Language) (path text : String)
    (hroot : SyntaxTree.root < (grammar language text).size) :
    Checked.analyzeText grammar includePrivate language path text =
        .ok (analyzeText grammar includePrivate language path text) ∧
      Checked.toReport path language
          (Checked.analyzeText grammar includePrivate language path text) =
        analyzeText grammar includePrivate language path text ∧
      (analyzeText grammar includePrivate language path text).FailsOnlyFor
        language path text (grammar language text) := by
  have hchecked :=
    Checked.analyzeText_eq grammar includePrivate language path text hroot
  refine ⟨hchecked, by rw [hchecked]; rfl, ?_⟩
  exact failsOnlyFor_analyzeText grammar includePrivate language path text

/-- The tree of a name on one line and a stray bracket on the next. -/
def strayTree : SyntaxTree where
  source := "x\n(\n"
  nodes := #[
    ⟨0, "module", none, true, false, 0, 4, 1⟩,
    ⟨1, "expression_statement", none, true, false, 0, 1, 1⟩,
    ⟨2, "identifier", none, true, false, 0, 1, 1⟩,
    ⟨1, "ERROR", none, true, true, 2, 3, 2⟩,
    ⟨2, "(", none, false, false, 2, 3, 2⟩]
  preorder := by decide

/-- The stray bracket makes a Python file fail, with its line, and leaves a C++
file as it is. -/
theorem analyzeText_failure_stray :
    SyntaxTree.root < strayTree.size ∧ strayTree.IsFirstBroken 3 ∧
      (analyzeText (fun _ _ => strayTree) false .python "a.py"
        strayTree.source).failure =
          some (.parse "a.py" "syntax error at line 2") ∧
      (analyzeText (fun _ _ => strayTree) false .cpp "a.cpp"
        strayTree.source).failure = none := by
  have hroot : SyntaxTree.root < strayTree.size := by decide
  have hfirst : strayTree.IsFirstBroken 3 := ⟨by decide, rfl, by decide⟩
  obtain ⟨-, -, hpython⟩ := analyzeText_failure (fun _ _ => strayTree) false
    .python "a.py" strayTree.source hroot
  obtain ⟨-, -, hcpp⟩ := analyzeText_failure (fun _ _ => strayTree) false
    .cpp "a.cpp" strayTree.source hroot
  refine ⟨hroot, hfirst, hpython.of_broken (by decide) rfl 3 hfirst, ?_⟩
  by_contra hfailed
  rcases hcpp.failed_iff.mp hfailed with hzero | ⟨hlanguage, -⟩
  · exact absurd hzero (by decide)
  · cases hlanguage

end CallGraph
