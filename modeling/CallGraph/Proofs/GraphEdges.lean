import CallGraph.Report.Graph
import CallGraph.Proofs.MergedReports

/-!
# The edges of a graph

An edge is drawn for every known call from a function that is shown to a node
that is shown, once, with the first file of the call (`mem_edges`), and the
edges ascend by source and then by target (`edges_ascending`).  When the index
comes from reports, the first file is the one with the least path among all
the files that have the call (`firstFile?_le`), because the entries of the
call map come in path order.
-/

namespace CallGraph

/-- In an ordered list, what does not stand before an item does not come
before it in the order either. -/
theorem rel_of_not_mem_before {α : Type} {R : α → α → Prop}
    {before after : List α} {x y : α}
    (horder : (before ++ x :: after).Pairwise R) (hrefl : ∀ a, R a a)
    (hy : y ∈ before ++ x :: after) (hbefore : y ∉ before) : R x y := by
  obtain ⟨_, hfrom, _⟩ := List.pairwise_append.mp horder
  rcases List.mem_append.mp hy with hy | hy
  · exact absurd hy hbefore
  · rcases List.mem_cons.mp hy with rfl | hy
    · exact hrefl y
    · exact (List.pairwise_cons.mp hfrom).1 y hy

/-- In an ordered list, what is not among the first items comes after them. -/
theorem rel_of_mem_take {α : Type} {R : α → α → Prop} {xs : List α} {n : Nat}
    {x y : α} (horder : xs.Pairwise R) (hx : x ∈ xs.take n) (hy : y ∈ xs)
    (hleft : y ∉ xs.take n) : R x y := by
  rw [← List.take_append_drop n xs] at horder hy
  have hdropped : y ∈ xs.drop n := (List.mem_append.mp hy).resolve_left hleft
  exact (List.pairwise_append.mp horder).2.2 x hx y hdropped

namespace CallMap

/-- A caller calls what any of its pairs lists. -/
theorem mem_calledBy {pairs : List (String × NameSet)}
    {caller target : String} :
    target ∈ calledBy pairs caller ↔
      ∃ p ∈ pairs, p.1 = caller ∧ target ∈ p.2 := by
  simp only [calledBy, NameSet.mem_unions, List.mem_map, List.mem_filter,
    decide_eq_true_eq]
  constructor
  · intro h
    obtain ⟨_, ⟨p, ⟨hp, hcaller⟩, rfl⟩, htarget⟩ := h
    exact ⟨p, hp, hcaller, htarget⟩
  · intro h
    obtain ⟨p, hp, hcaller, htarget⟩ := h
    exact ⟨p.2, ⟨p, ⟨hp, hcaller⟩, rfl⟩, htarget⟩

/-- Each caller of the pairs has one entry, which holds everything listed for
it. -/
theorem mem_entries_ofPairs {pairs : List (String × NameSet)}
    {e : String × NameSet} :
    e ∈ (ofPairs pairs).entries ↔
      (∃ p ∈ pairs, p.1 = e.1) ∧ e.2 = calledBy pairs e.1 := by
  simp only [ofPairs, List.mem_map, NameSet.mem_toList, NameSet.mem_ofList]
  constructor
  · intro h
    obtain ⟨caller, ⟨p, hp, hcaller⟩, rfl⟩ := h
    exact ⟨⟨p, hp, hcaller⟩, rfl⟩
  · intro h
    obtain ⟨⟨p, hp, hcaller⟩, htargets⟩ := h
    exact ⟨e.1, ⟨p, hp, hcaller⟩, Prod.ext rfl htargets.symm⟩

/-- A target stands in the entry of a caller exactly when some pair lists
it. -/
theorem exists_entry_ofPairs {pairs : List (String × NameSet)}
    {caller target : String} :
    (∃ e ∈ (ofPairs pairs).entries, e.1 = caller ∧ target ∈ e.2) ↔
      ∃ p ∈ pairs, p.1 = caller ∧ target ∈ p.2 := by
  constructor
  · intro h
    obtain ⟨e, he, rfl, htarget⟩ := h
    obtain ⟨_, htargets⟩ := mem_entries_ofPairs.mp he
    rw [htargets] at htarget
    exact mem_calledBy.mp htarget
  · intro h
    obtain ⟨p, hp, rfl, htarget⟩ := h
    exact ⟨(p.1, calledBy pairs p.1),
      mem_entries_ofPairs.mpr ⟨⟨p, hp, rfl⟩, rfl⟩, rfl,
      mem_calledBy.mpr ⟨p, hp, rfl, htarget⟩⟩

/-- Each caller has one entry in a map of calls. -/
theorem callers_nodup (m : CallMap) : (m.entries.map Prod.fst).Nodup := by
  refine m.ascending.imp fun {a b} hlt heq => ?_
  subst heq
  exact String.lt_irrefl a hlt

/-- A caller has one entry. -/
theorem mem_entries_iff {m : CallMap} {caller : String} {targets : NameSet} :
    (caller, targets) ∈ m.entries ↔ m.get? caller = some targets :=
  OrderedMap.mem_entries_iff (m := ⟨m.entries, m.callers_nodup⟩)

/-- The targets of a caller are read off its entry. -/
theorem mem_targetsOf {m : CallMap} {caller target : String} :
    target ∈ m.targetsOf caller ↔
      ∃ e ∈ m.entries, e.1 = caller ∧ target ∈ e.2 := by
  unfold targetsOf
  constructor
  · intro h
    cases hget : m.get? caller with
    | none =>
        rw [hget] at h
        exact absurd h (NameSet.not_mem_empty target)
    | some targets =>
        rw [hget] at h
        exact ⟨(caller, targets), mem_entries_iff.mpr hget, rfl, h⟩
  · intro h
    obtain ⟨e, he, rfl, htarget⟩ := h
    rw [mem_entries_iff.mp he]
    exact htarget

/-- What is called is called by someone. -/
theorem mem_called {m : CallMap} {target : String} :
    target ∈ m.called ↔ ∃ caller, target ∈ m.targetsOf caller := by
  simp only [called, NameSet.mem_unions, List.mem_map, mem_targetsOf]
  constructor
  · intro h
    obtain ⟨_, ⟨e, he, rfl⟩, htarget⟩ := h
    exact ⟨e.1, e, he, rfl, htarget⟩
  · intro h
    obtain ⟨_, e, he, _, htarget⟩ := h
    exact ⟨e.2, ⟨e, he, rfl⟩, htarget⟩

end CallMap

namespace ProjectIndex

variable (index : ProjectIndex)

/-- A function `caller` of some file calls `target`. -/
def Calls (caller target : String) : Prop :=
  ∃ path, index.CallsIn path caller target

variable {index}

/-- The call table has the calls of the index and no others. -/
theorem exists_entry_callTable {caller target : String} :
    (∃ e ∈ index.callTable.entries, e.1 = caller ∧ target ∈ e.2) ↔
      index.Calls caller target := by
  unfold callTable
  rw [CallMap.exists_entry_ofPairs]
  simp only [List.mem_map, Calls, CallsIn]
  constructor
  · intro h
    obtain ⟨_, ⟨⟨⟨path, _⟩, targets⟩, he, rfl⟩, rfl, htarget⟩ := h
    exact ⟨path, targets, he, htarget⟩
  · intro h
    obtain ⟨path, targets, he, htarget⟩ := h
    exact ⟨_, ⟨_, he, rfl⟩, rfl, htarget⟩

theorem mem_targetsOf_callTable {caller target : String} :
    target ∈ index.callTable.targetsOf caller ↔
      index.Calls caller target :=
  CallMap.mem_targetsOf.trans exists_entry_callTable

/-- **Connected names.**  A defined name is connected when some function calls
it or when it calls a defined name. -/
theorem mem_connected {name : String} :
    name ∈ index.connected ↔
      name ∈ index.names ∧
        ((∃ caller, index.Calls caller name) ∨
          ∃ target ∈ index.names, index.Calls name target) := by
  simp only [connected, NameSet.mem_filter, Bool.or_eq_true,
    decide_eq_true_eq, List.any_eq_true, NameSet.mem_toList,
    CallMap.mem_called, mem_targetsOf_callTable]
  constructor
  · intro h
    obtain ⟨hname, hcaller | ⟨target, hcalls, htarget⟩⟩ := h
    · exact ⟨hname, Or.inl hcaller⟩
    · exact ⟨hname, Or.inr ⟨target, htarget, hcalls⟩⟩
  · intro h
    obtain ⟨hname, hcaller | ⟨target, htarget, hcalls⟩⟩ := h
    · exact ⟨hname, Or.inl hcaller⟩
    · exact ⟨hname, Or.inr ⟨target, hcalls, htarget⟩⟩

/-- The two ends of a call between defined names are connected. -/
theorem Calls.connected {caller target : String}
    (h : index.Calls caller target) (hcaller : caller ∈ index.names)
    (htarget : target ∈ index.names) :
    caller ∈ index.connected ∧ target ∈ index.connected := by
  constructor
  · exact mem_connected.mpr ⟨hcaller, Or.inr ⟨target, htarget, h⟩⟩
  · exact mem_connected.mpr ⟨htarget, Or.inl ⟨caller, h⟩⟩

/-- **Edges.**  An edge is a call from a function that is shown to a node that
is shown, with the first file of the call. -/
theorem mem_edges {language : Language} {cap : Nat} {e : Edge} :
    e ∈ index.edges language cap ↔
      e.source ∈ index.displayed cap ∧
        (e.target ∈ index.displayed cap ∨
          e.target ∈ index.shownExternals language) ∧
        index.Calls e.source e.target ∧
        e.file = index.firstFile? e.source e.target := by
  simp only [edges, edgesFrom, List.mem_flatMap, List.mem_filter,
    List.mem_map, NameSet.mem_toList, decide_eq_true_eq, Bool.or_eq_true]
  constructor
  · intro h
    obtain ⟨entry, ⟨hentry, hsource⟩, target, ⟨htarget, hshown⟩, rfl⟩ := h
    have hcalls : index.Calls entry.1 target :=
      exists_entry_callTable.mp ⟨entry, hentry, rfl, htarget⟩
    exact ⟨hsource, hshown, hcalls, rfl⟩
  · intro h
    obtain ⟨hsource, hshown, hcalls, hfile⟩ := h
    obtain ⟨entry, hentry, hcaller, htarget⟩ :=
      exists_entry_callTable.mpr hcalls
    refine ⟨entry, ⟨hentry, hcaller ▸ hsource⟩, e.target,
      ⟨htarget, hshown⟩, ?_⟩
    rw [hcaller, ← hfile]

/-- The order of edges: by source, then by target. -/
def EdgeBefore (a b : Edge) : Prop :=
  a.source < b.source ∨ a.source = b.source ∧ a.target < b.target

/-- The edges come in order, each before the next. -/
theorem edges_ascending (language : Language) (cap : Nat) :
    (index.edges language cap).Pairwise EdgeBefore := by
  refine List.pairwise_flatMap.mpr ⟨fun e _ => ?_, ?_⟩
  · refine List.pairwise_map.mpr ?_
    exact (e.2.ascending.filter _).imp fun h => Or.inr ⟨rfl, h⟩
  · have hcallers := index.callTable.ascending
    rw [List.pairwise_map] at hcallers
    refine (hcallers.filter _).imp fun {a b} hab => ?_
    intro x hx y hy
    obtain ⟨_, _, rfl⟩ := List.mem_map.mp hx
    obtain ⟨_, _, rfl⟩ := List.mem_map.mp hy
    exact Or.inl hab

/-- Every call of the index was found in some file. -/
theorem firstFile?_isSome {caller target : String}
    (h : index.Calls caller target) :
    ∃ path, index.firstFile? caller target = some path := by
  obtain ⟨path, targets, hentry, htarget⟩ := h
  unfold firstFile?
  rw [← Option.isSome_iff_exists, Option.isSome_map, List.find?_isSome]
  exact ⟨_, hentry, decide_eq_true ⟨rfl, htarget⟩⟩

/-- The file that an edge names is one in which its caller calls its target. -/
theorem callsIn_firstFile? {caller target path : String}
    (h : index.firstFile? caller target = some path) :
    index.CallsIn path caller target := by
  obtain ⟨⟨⟨_, _⟩, targets⟩, hfind, rfl⟩ := Option.map_eq_some_iff.mp h
  have hcall := List.find?_some hfind
  rw [decide_eq_true_eq] at hcall
  obtain ⟨rfl, htarget⟩ := hcall
  exact ⟨targets, List.mem_of_find?_eq_some hfind, htarget⟩

/-- **First file.**  No file with a lesser path has the call.  The entries
before the first one with the call do not have it; those after it have a path
at least as great. -/
theorem firstFile?_le {rules : ExclusionRules} {reports : List FileReport}
    {caller target path other : String}
    (h : (ofReports rules reports).firstFile? caller target = some path)
    (hother : (ofReports rules reports).CallsIn other caller target) :
    path ≤ other := by
  obtain ⟨first, hfind, rfl⟩ := Option.map_eq_some_iff.mp h
  obtain ⟨before, after, hsplit, hbefore⟩ :=
    (List.find?_eq_some_iff_append.mp hfind).2
  obtain ⟨targets, hentry, htarget⟩ := hother
  have horder := calls_ascending rules reports
  rw [hsplit] at hentry horder
  have hnot : ((other, caller), targets) ∉ before := by
    intro hmem
    exact absurd (hbefore _ hmem) (by simp [htarget])
  have hle := rel_of_not_mem_before horder (fun e => String.le_refl e.1.1)
    hentry hnot
  exact hle

end ProjectIndex

end CallGraph
