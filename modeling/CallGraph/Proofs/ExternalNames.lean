import CallGraph.Proofs.GraphShape
import Mathlib.Data.Set.Card

/-!
# External names

A called name without a definition is worth reporting unless the language
provides it or its last segment has the form `__word__`.  Names are reported
in three places that must agree: all of them are counted, the least ones
become nodes, and edges may end at these nodes only.

The form of a name is read off its characters from behind; `isDunder_iff` says
what it means in terms of the whole name.  With it, the set from which all
three are taken has exactly the external names (`mem_externals_iff`).  An
external node is marked when some edge ends at it, and since every call to it
from a function that is shown is an edge, the mark says that there is such a
call (`external_connected_iff`).  `report_listsExternals` puts this together.
-/

namespace CallGraph

/-- What follows the last full stop or colon of a name, or the whole name if
it has none. -/
structure IsLastSegment (segment : List Char) (name : String) : Prop where
  follows : ∃ scope, name.toList = scope ++ segment ∧
    ∀ c ∈ scope.getLast?, c = '.' ∨ c = ':'
  unbroken : ∀ c ∈ segment, c ≠ '.' ∧ c ≠ ':'

/-- The form `__word__`. -/
def IsDunderForm (segment : List Char) : Prop :=
  ∃ word, segment = ['_', '_'] ++ word ++ ['_', '_'] ∧ word ≠ [] ∧
    ∀ c ∈ word, Text.isWord c

/-- Reading a name from behind up to a separator gives its last segment. -/
theorem isLastSegment_finalSegment (name : String) :
    IsLastSegment (finalSegment name) name := by
  constructor
  case follows =>
    refine ⟨(name.toList.reverse.dropWhile
      fun c => c != '.' && c != ':').reverse, ?_, ?_⟩
    · unfold finalSegment
      rw [← List.reverse_append, List.takeWhile_append_dropWhile,
        List.reverse_reverse]
    · intro c hc
      rw [List.getLast?_reverse] at hc
      have hstop := List.head?_dropWhile_not (fun c => c != '.' && c != ':')
        name.toList.reverse
      rw [Option.mem_def.mp hc] at hstop
      by_cases hdot : c = '.'
      · exact Or.inl hdot
      · right
        simpa [hdot] using hstop
  case unbroken =>
    intro c hc
    have hkept := List.all_takeWhile
      (p := fun c => c != '.' && c != ':') (l := name.toList.reverse)
    have hc := List.mem_reverse.mp hc
    simpa using List.all_eq_true.mp hkept c hc

/-- A name has one last segment. -/
theorem IsLastSegment.eq_finalSegment {segment : List Char} {name : String}
    (h : IsLastSegment segment name) : segment = finalSegment name := by
  obtain ⟨scope, hname, hscope⟩ := h.follows
  have hkept : ∀ c ∈ segment.reverse, (c != '.' && c != ':') = true := by
    intro c hc
    have hc := h.unbroken c (List.mem_reverse.mp hc)
    simpa using hc
  have hstop : scope.reverse.takeWhile
      (fun c => c != '.' && c != ':') = [] := by
    rw [← List.head?_reverse] at hscope
    cases hrest : scope.reverse with
    | nil => rfl
    | cons c rest =>
        rw [hrest] at hscope
        rcases hscope c rfl with rfl | rfl
        · rfl
        · rfl
  unfold finalSegment
  rw [hname, List.reverse_append, List.takeWhile_append_of_pos hkept, hstop,
    List.append_nil, List.reverse_reverse]

/-- The dunder form in plain words: at least five word characters with two
underscores at each end. -/
theorem isDunderForm_iff {segment : List Char} :
    IsDunderForm segment ↔
      5 ≤ segment.length ∧ ['_', '_'] <+: segment ∧ ['_', '_'] <:+ segment ∧
        ∀ c ∈ segment, Text.isWord c := by
  constructor
  · intro h
    obtain ⟨word, rfl, hne, hword⟩ := h
    have hpos : 0 < word.length := List.length_pos_iff.mpr hne
    refine ⟨?_, ?_, List.suffix_append _ _, ?_⟩
    · simp only [List.length_append, List.length_cons, List.length_nil]
      omega
    · rw [List.append_assoc]
      exact List.prefix_append _ _
    · have hmark : Text.isWord '_' = true := by decide
      intro c hc
      simp only [List.mem_append, List.mem_cons, List.not_mem_nil, or_false,
        or_self] at hc
      rcases hc with (rfl | hc) | rfl
      · exact hmark
      · exact hword c hc
      · exact hmark
  · intro h
    obtain ⟨hlength, ⟨rest, rfl⟩, hsuffix, hword⟩ := h
    simp only [List.length_append, List.length_cons, List.length_nil]
      at hlength
    have hrest : ['_', '_'] <:+ rest :=
      List.suffix_of_suffix_length_le hsuffix (List.suffix_append _ _)
        (by simp only [List.length_cons, List.length_nil]; omega)
    obtain ⟨word, rfl⟩ := hrest
    simp only [List.length_append, List.length_cons, List.length_nil]
      at hlength
    refine ⟨word, (List.append_assoc _ _ _).symm, ?_, ?_⟩
    · intro hnil
      rw [hnil, List.length_nil] at hlength
      omega
    · intro c hc
      apply hword
      exact List.mem_append_right _ (List.mem_append_left _ hc)

/-- **Special names.**  A name is special exactly if its last segment has the
form `__word__`. -/
theorem isDunder_iff {name : String} :
    isDunder name = true ↔
      ∃ segment, IsLastSegment segment name ∧ IsDunderForm segment := by
  have hform : isDunder name = true ↔ IsDunderForm (finalSegment name) := by
    rw [isDunderForm_iff]
    simp only [isDunder, Bool.and_eq_true, decide_eq_true_eq,
      List.isPrefixOf_iff_prefix, List.isSuffixOf_iff_suffix,
      List.all_eq_true, and_assoc]
  rw [hform]
  constructor
  · intro h
    exact ⟨finalSegment name, isLastSegment_finalSegment name, h⟩
  · intro h
    obtain ⟨segment, hlast, hdunder⟩ := h
    rwa [hlast.eq_finalSegment] at hdunder

namespace NameSet

/-- A set of names has as many members as its size says. -/
theorem ncard_eq_size (s : NameSet) : {x | x ∈ s}.ncard = s.size := by
  have hset : {x | x ∈ s} = (s.toList.toFinset : Set String) := by
    rw [List.coe_toFinset]
    rfl
  rw [hset, Set.ncard_coe_finset, List.toFinset_card_of_nodup s.nodup, size]

theorem toList_take (n : Nat) (s : NameSet) :
    (s.take n).toList = s.toList.take n := rfl

/-- What is left out of the least members comes after all of them. -/
theorem lt_of_mem_take {n : Nat} {s : NameSet} {x y : String}
    (hx : x ∈ s.take n) (hy : y ∈ s) (hleft : y ∉ s.take n) : x < y :=
  rel_of_mem_take s.ascending hx hy hleft

end NameSet

namespace ProjectIndex

/-- A name is called somewhere, has no definition, is not provided by the
language and is not special. -/
structure IsExternal (index : ProjectIndex) (language : Language)
    (name : String) : Prop where
  called : ∃ e ∈ index.calls.entries, name ∈ e.2
  undefined : name ∉ index.registry.keys
  not_provided : language.provides name = false
  not_special :
    ¬ ∃ segment, IsLastSegment segment name ∧ IsDunderForm segment

variable {index : ProjectIndex} {language : Language} {cap : Nat}

/-- A name is called in the table exactly when some entry of the index calls
it. -/
theorem mem_called_callTable {name : String} :
    name ∈ index.callTable.called ↔
      ∃ e ∈ index.calls.entries, name ∈ e.2 := by
  simp only [CallMap.mem_called, mem_targetsOf_callTable, Calls, CallsIn]
  constructor
  · intro h
    obtain ⟨caller, path, targets, hentry, hname⟩ := h
    exact ⟨_, hentry, hname⟩
  · intro h
    obtain ⟨⟨⟨path, caller⟩, targets⟩, hentry, hname⟩ := h
    exact ⟨caller, path, targets, hentry, hname⟩

/-- The set that is counted and shown has exactly the external names. -/
theorem mem_externals_iff {name : String} :
    name ∈ index.externals language ↔ index.IsExternal language name := by
  have hspecial : isDunder name = false ↔
      ¬ ∃ segment, IsLastSegment segment name ∧ IsDunderForm segment := by
    rw [← isDunder_iff, Bool.not_eq_true]
  simp only [externals, NameSet.mem_filter, mem_called_callTable,
    Language.reportsExternal, Bool.and_eq_true, Bool.not_eq_true',
    decide_eq_false_iff_not, mem_names, hspecial]
  constructor
  · intro h
    obtain ⟨hcalled, hundefined, hprovided, hplain⟩ := h
    exact ⟨hcalled, hundefined, hprovided, hplain⟩
  · intro h
    exact ⟨h.called, h.undefined, h.not_provided, h.not_special⟩

/-- The report of an index with a function in it, field by field. -/
theorem report_of_nonempty (h : index.registry.keys ≠ []) :
    index.report language cap =
      { language := some language
        nodes := index.nodes language cap
        edges := index.edges language cap
        stats := index.stats language cap
        errors := index.errors
        warning := index.warning? cap } := by
  obtain ⟨name, hkey⟩ := List.exists_mem_of_ne_nil _ h
  have hname : name ∈ index.names.toList := mem_names.mpr hkey
  have hnonempty : index.names.isEmpty = false := by
    rw [NameSet.isEmpty, List.isEmpty_eq_false_iff]
    exact List.ne_nil_of_mem hname
  unfold report
  rw [hnonempty]
  rfl

/-- The statistics of a report count all external names, shown or not. -/
theorem externalReferences_report (h : index.registry.keys ≠ []) :
    (index.report language cap).stats.externalReferences =
      (index.externals language).size := by
  rw [report_of_nonempty h]
  rfl

/-- The external nodes of a report are the shown external names, in order. -/
theorem externalIds_report (h : index.registry.keys ≠ []) :
    (index.report language cap).externalIds =
      (index.shownExternals language).toList := by
  rw [report_of_nonempty h]
  exact externalIds_nodes index language cap

/-- The mark of an external node says whether a function that is shown calls
it. -/
theorem external_connected_iff {node : ExternalNode}
    (hnode : .external node ∈ index.nodes language cap) :
    node.connected = true ↔
      ∃ e ∈ index.calls.entries,
        e.1.2 ∈ index.displayed cap ∧ node.id ∈ e.2 := by
  have hmember : node ∈ index.externalNodes language cap := by
    rw [nodes_eq] at hnode
    simpa using hnode
  obtain ⟨name, hname, rfl⟩ := List.mem_map.mp hmember
  simp only [decide_eq_true_eq, NameSet.mem_ofList, List.mem_map]
  constructor
  · intro h
    obtain ⟨e, he, htarget⟩ := h
    obtain ⟨hsource, _, ⟨path, targets, hentry, hcalled⟩, _⟩ :=
      mem_edges.mp he
    exact ⟨_, hentry, hsource, htarget ▸ hcalled⟩
  · intro h
    obtain ⟨⟨⟨path, caller⟩, targets⟩, hentry, hshown, hcalled⟩ := h
    have hcalls : index.Calls caller name := ⟨path, targets, hentry, hcalled⟩
    have hedge : (⟨caller, name, index.firstFile? caller name⟩ : Edge) ∈
        index.edges language cap :=
      mem_edges.mpr ⟨hshown, Or.inr hname, hcalls, rfl⟩
    exact ⟨_, hedge, rfl⟩

end ProjectIndex

/-- A report counts the external names of an index, shows the least twenty of
them in ascending order, marks those that a function it shows calls, and has
no edge to any other undefined name. -/
structure Report.ListsExternals (report : Report) (index : ProjectIndex)
    (language : Language) (shown : NameSet) : Prop where
  finite : {name | index.IsExternal language name}.Finite
  count : report.stats.externalReferences =
    {name | index.IsExternal language name}.ncard
  shown_count : report.externalIds.length =
    min 20 {name | index.IsExternal language name}.ncard
  shown_external : ∀ id ∈ report.externalIds, index.IsExternal language id
  shown_ascending : report.externalIds.Pairwise fun a b =>
    Text.bytes a < Text.bytes b
  shown_least : ∀ id ∈ report.externalIds,
    ∀ other, index.IsExternal language other → other ∉ report.externalIds →
      Text.bytes id < Text.bytes other
  marked_iff : ∀ node, .external node ∈ report.nodes →
    (node.connected = true ↔
      ∃ e ∈ index.calls.entries, e.1.2 ∈ shown ∧ node.id ∈ e.2)
  edges_closed : ∀ e ∈ report.edges,
    e.target ∉ index.registry.keys → e.target ∈ report.externalIds

namespace ProjectIndex

/-- **External names.**  In a project with a defined name, all the external
names are counted, the least twenty are nodes, their marks tell of calls from
the names that are shown, and edges to undefined names end at them. -/
theorem report_listsExternals (index : ProjectIndex) (language : Language)
    (cap : Nat) (h : index.registry.keys ≠ []) :
    (index.report language cap).ListsExternals index language
      (index.displayed cap) := by
  have hids : (index.report language cap).externalIds =
      (index.shownExternals language).toList := externalIds_report h
  have hset : {name | index.IsExternal language name} =
      {name | name ∈ index.externals language} := by
    apply Set.ext
    intro name
    exact mem_externals_iff.symm
  have hcard := NameSet.ncard_eq_size (index.externals language)
  rw [← hset] at hcard
  constructor
  case finite =>
    rw [hset]
    exact List.finite_toSet (index.externals language).toList
  case count => rw [hcard, externalReferences_report h]
  case shown_count =>
    rw [hids, hcard, shownExternals, NameSet.toList_take, List.length_take]
    rfl
  case shown_external =>
    intro id hid
    rw [hids] at hid
    exact mem_externals_iff.mp (NameSet.mem_of_mem_take hid)
  case shown_ascending =>
    rw [hids]
    exact NameSet.bytes_ascending _
  case shown_least =>
    intro id hid other hother hleft
    rw [hids] at hid hleft
    have hlt := NameSet.lt_of_mem_take hid (mem_externals_iff.mpr hother)
      hleft
    exact Text.bytes_lt_of_lt hlt
  case marked_iff =>
    intro node hnode
    rw [report_of_nonempty h] at hnode
    exact external_connected_iff hnode
  case edges_closed =>
    intro e he hundefined
    rw [hids]
    rw [edges_report] at he
    obtain ⟨_, hfunction | hexternal, _, _⟩ := mem_edges.mp he
    · have hdefined := mem_names_of_mem_displayed hfunction
      exact absurd (mem_names.mp hdefined) hundefined
    · exact hexternal

/-- The `n`-th letter of the alphabet after `api.`, twice. -/
def doubledName (n : Nat) : String :=
  "api." ++ String.ofList [Char.ofNat (97 + n), Char.ofNat (97 + n)]

/-- A function that calls itself, a function of the language, a special name
and more external names than are shown, and a second one that calls the
last of these. -/
def manyExternalsIndex : ProjectIndex where
  registry := ⟨[
    ("f", [{ name := "f", filePath := "a.py", line := 1 }]),
    ("g", [{ name := "g", filePath := "a.py", line := 9 }])], by decide⟩
  calls := ⟨[
    (("a.py", "f"), .ofList ("f" :: "print" :: "super.__init__" ::
      (List.range 21).map doubledName)),
    (("a.py", "g"), .ofList ["api.zz"])], by decide⟩
  filesProcessed := 1

/-- Of twenty-two external names twenty are shown. -/
theorem report_listsExternals_many :
    manyExternalsIndex.registry.keys ≠ [] ∧
      (manyExternalsIndex.report .python 1).stats.externalReferences = 22 ∧
      (manyExternalsIndex.report .python 1).externalIds =
        (List.range 20).map doubledName ∧
      (manyExternalsIndex.report .python 1).ListsExternals
        manyExternalsIndex .python (manyExternalsIndex.displayed 1) := by
  have hdefined : manyExternalsIndex.registry.keys ≠ [] := by decide
  have hexternals : (manyExternalsIndex.externals .python).toList =
      (List.range 21).map doubledName ++ ["api.zz"] := by decide +kernel
  refine ⟨hdefined, ?_, ?_, ?_⟩
  · rw [externalReferences_report hdefined, NameSet.size, hexternals]
    rfl
  · rw [externalIds_report hdefined, shownExternals, NameSet.toList_take,
      hexternals]
    rfl
  · exact report_listsExternals manyExternalsIndex .python 1 hdefined

end ProjectIndex

end CallGraph
