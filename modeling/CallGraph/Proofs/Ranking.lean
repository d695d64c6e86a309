import CallGraph.Proofs.GraphShape

/-!
# Which functions a cap leaves

When not all functions can be shown, the connected ones are, and when these are
still too many, those of the highest rank.  The rank of a name is its score,
which counts its callers twice and its defined targets and definitions once
(`score`); equal scores are ranked by name (`Outranks`).

A graph is drawn from a table of calls in which every caller has one entry, so
that counting entries is counting distinct names (`indegree_eq`,
`outdegree_eq`).  The best names are the first ones in the order of ranks, and
what comes first in that order outranks everything that is left
(`outranks_of_mem_best`).  `report_capped` puts the three choices together with
what a report says of them.
-/

namespace CallGraph

namespace NameSet

/-- Placing a new name in a sorted list adds one element. -/
theorem length_place_of_not_mem {x : String} {ys : List String}
    (h : x ∉ ys) : (place x ys).length = ys.length + 1 := by
  induction ys with
  | nil => rfl
  | cons y ys ih =>
      obtain ⟨hne, hrest⟩ := not_or.mp (mt List.mem_cons.mpr h)
      rw [place]
      split
      · rfl
      · rw [List.length_cons, ih hrest, List.length_cons]

/-- A list without repetitions has as many items as its set has members. -/
theorem size_ofList {xs : List String} (h : xs.Nodup) :
    (ofList xs).size = xs.length := by
  induction xs with
  | nil => rfl
  | cons x xs ih =>
      obtain ⟨hx, hxs⟩ := List.nodup_cons.mp h
      have hnew : x ∉ (ofList xs).toList := fun hmem => hx (mem_ofList.mp hmem)
      calc (ofList (x :: xs)).size
          = (place x (ofList xs).toList).length := rfl
        _ = (ofList xs).size + 1 := length_place_of_not_mem hnew
        _ = (x :: xs).length := by rw [ih hxs, List.length_cons]

/-- An ascending list has as many items as a set with the same members. -/
theorem length_eq_size {xs : List String} {s : NameSet}
    (hxs : xs.Pairwise (· < ·)) (h : ∀ x, x ∈ xs ↔ x ∈ s) :
    xs.length = s.size := by
  rw [eq_of_mem_iff hxs s.ascending h, size]

end NameSet

namespace ProjectIndex

variable (index : ProjectIndex)

/-- The names from which a name is called in some file. -/
def callersOf (name : String) : NameSet :=
  .ofList ((index.calls.entries.filter fun e => name ∈ e.2).map (·.1.2))

/-- The defined names that are called from a name in some file. -/
def definedTargetsOf (name : String) : NameSet :=
  index.names.filter fun target =>
    index.calls.entries.any fun e => e.1.2 = name ∧ target ∈ e.2

/-- The weight of a name: callers count twice, defined targets and definitions
once. -/
def score (name : String) : Nat :=
  2 * (index.callersOf name).size + (index.definedTargetsOf name).size +
    (index.definitionsOf name).length

/-- A name ranks above another: its score is greater, or the scores are equal
and its bytes come first. -/
def Outranks (name other : String) : Prop :=
  index.score other < index.score name ∨
    index.score name = index.score other ∧
      Text.bytes name < Text.bytes other

variable {index}

theorem mem_callersOf {caller name : String} :
    caller ∈ index.callersOf name ↔ index.Calls caller name := by
  simp only [callersOf, NameSet.mem_ofList, List.mem_map, List.mem_filter,
    decide_eq_true_eq, Calls, CallsIn]
  constructor
  · rintro ⟨⟨⟨path, _⟩, targets⟩, ⟨hentry, hname⟩, rfl⟩
    exact ⟨path, targets, hentry, hname⟩
  · rintro ⟨path, targets, hentry, hname⟩
    exact ⟨_, ⟨hentry, hname⟩, rfl⟩

/-- The defined targets of a name are what it calls inside the index. -/
theorem mem_definedTargetsOf {name target : String} :
    target ∈ index.definedTargetsOf name ↔
      target ∈ index.names ∧ index.Calls name target := by
  simp only [definedTargetsOf, NameSet.mem_filter, List.any_eq_true,
    decide_eq_true_eq, Calls, CallsIn]
  refine and_congr_right fun _ => ?_
  constructor
  · rintro ⟨⟨⟨path, _⟩, targets⟩, hentry, rfl, htarget⟩
    exact ⟨path, targets, hentry, htarget⟩
  · rintro ⟨path, targets, hentry, htarget⟩
    exact ⟨_, hentry, rfl, htarget⟩

/-- Entries of the table that call a name are its distinct callers. -/
theorem indegree_eq (name : String) :
    indegree index.callTable name = (index.callersOf name).size := by
  have hcallers : ((index.callTable.entries.filter fun e => name ∈ e.2).map
      Prod.fst).Pairwise (· < ·) :=
    index.callTable.ascending.sublist (List.filter_sublist.map Prod.fst)
  unfold indegree
  rw [List.countP_eq_length_filter, ← List.length_map Prod.fst]
  apply NameSet.length_eq_size hcallers
  intro caller
  rw [mem_callersOf, ← exists_entry_callTable]
  simp only [List.mem_map, List.mem_filter, decide_eq_true_eq]
  constructor
  · rintro ⟨e, ⟨hentry, hname⟩, rfl⟩
    exact ⟨e, hentry, rfl, hname⟩
  · rintro ⟨e, hentry, rfl, hname⟩
    exact ⟨e, ⟨hentry, hname⟩, rfl⟩

/-- The outgoing degree counts the defined targets. -/
theorem outdegree_eq (name : String) :
    outdegree index.callTable index.names name =
      (index.definedTargetsOf name).size := by
  unfold outdegree
  rw [List.countP_eq_length_filter]
  apply NameSet.length_eq_size
    ((index.callTable.targetsOf name).ascending.filter _)
  intro target
  rw [mem_definedTargetsOf, ← mem_targetsOf_callTable, List.mem_filter,
    decide_eq_true_eq, NameSet.mem_toList]
  exact and_comm

/-- The names with their scores. -/
theorem scored_eq :
    index.scored = index.names.toList.map fun name =>
      (index.score name, name) := by
  unfold scored
  simp only [indegree_eq, outdegree_eq]
  rfl

/-- A higher score is preferred, and on equal scores the earlier name. -/
theorem preferred_iff {a b : Nat × String} :
    preferred a b = true ↔ b.1 < a.1 ∨ a.1 = b.1 ∧ a.2 ≤ b.2 := by
  simp [preferred]

/-- The preference is transitive, as the sort asks. -/
theorem preferred_trans (a b c : Nat × String) (hab : preferred a b = true)
    (hbc : preferred b c = true) : preferred a c = true := by
  rw [preferred_iff] at hab hbc ⊢
  rcases hab with hab | ⟨hab, hnames⟩
  · left
    omega
  · rcases hbc with hbc | ⟨hbc, hnames'⟩
    · left
      omega
    · exact Or.inr ⟨hab.trans hbc, String.le_trans hnames hnames'⟩

theorem preferred_total (a b : Nat × String) :
    (preferred a b || preferred b a) = true := by
  rw [Bool.or_eq_true, preferred_iff, preferred_iff]
  rcases Nat.lt_trichotomy a.1 b.1 with hlt | heq | hgt
  · exact Or.inr (Or.inl hlt)
  · rcases String.le_total a.2 b.2 with hle | hle
    · exact Or.inl (Or.inr ⟨heq, hle⟩)
    · exact Or.inr (Or.inr ⟨heq.symm, hle⟩)
  · exact Or.inl (Or.inl hgt)

/-- The scored names, the highest rank first. -/
theorem ranked_ordered :
    (index.scored.mergeSort preferred).Pairwise
      fun a b => preferred a b = true :=
  List.pairwise_mergeSort preferred_trans preferred_total index.scored

/-- The ranking has each name once. -/
theorem ranked_names_nodup :
    ((index.scored.mergeSort preferred).map Prod.snd).Nodup := by
  have hperm := (List.mergeSort_perm index.scored preferred).map Prod.snd
  rw [hperm.nodup_iff, scored_eq, List.map_map]
  simpa [Function.comp_def] using index.names.nodup

/-- The ranking has each name of the index with its score. -/
theorem mem_ranked {entry : Nat × String} :
    entry ∈ index.scored.mergeSort preferred ↔
      entry.2 ∈ index.names ∧ entry.1 = index.score entry.2 := by
  rw [List.mem_mergeSort, scored_eq, List.mem_map]
  constructor
  · rintro ⟨name, hname, rfl⟩
    exact ⟨hname, rfl⟩
  · rintro ⟨hname, hscore⟩
    exact ⟨entry.2, hname, Prod.ext hscore.symm rfl⟩

/-- **Top names.**  A name among the best outranks every name that is not. -/
theorem outranks_of_mem_best {limit : Nat} {name other : String}
    (hname : name ∈ index.best limit) (hother : other ∈ index.names)
    (hleft : other ∉ index.best limit) : index.Outranks name other := by
  obtain ⟨entry, htaken, rfl⟩ := List.mem_map.mp (NameSet.mem_ofList.mp hname)
  obtain ⟨_, hentry⟩ := mem_ranked.mp (List.mem_of_mem_take htaken)
  have hlisted : (index.score other, other) ∈
      index.scored.mergeSort preferred := mem_ranked.mpr ⟨hother, rfl⟩
  have hbehind : (index.score other, other) ∉
      (index.scored.mergeSort preferred).take limit := by
    intro htake
    exact hleft (NameSet.mem_ofList.mpr (List.mem_map_of_mem htake))
  have hbefore := rel_of_mem_take ranked_ordered htaken hlisted hbehind
  have hpreferred := preferred_iff.mp hbefore
  rw [hentry] at hpreferred
  rcases hpreferred with hscore | ⟨hscore, hle⟩
  · exact Or.inl hscore
  · have hne : other ≠ entry.2 := fun heq => hleft (heq ▸ hname)
    have hlt : entry.2 < other :=
      String.not_le.mp fun hge => hne (String.le_antisymm hge hle)
    exact Or.inr ⟨hscore, Text.bytes_lt_of_lt hlt⟩

/-- As many names are kept as the limit allows. -/
theorem size_best {limit : Nat} (h : limit ≤ index.names.size) :
    (index.best limit).size = limit := by
  have hnodup : (((index.scored.mergeSort preferred).take limit).map
      Prod.snd).Nodup :=
    ranked_names_nodup.sublist ((List.take_sublist _ _).map Prod.snd)
  have hlength : (index.scored.mergeSort preferred).length =
      index.names.size := by
    rw [List.length_mergeSort, scored_eq, List.length_map, NameSet.size]
  unfold best
  rw [NameSet.size_ofList hnodup, List.length_map, List.length_take, hlength,
    Nat.min_eq_left h]

theorem size_connected_le : index.connected.size ≤ index.names.size :=
  List.length_filter_le _ _

/-- Something is hidden exactly when there are more names than the cap
allows. -/
theorem size_displayed_lt_iff {cap : Nat} :
    (index.displayed cap).size < index.names.size ↔
      cap < index.names.size := by
  constructor
  · intro hhidden
    apply Nat.lt_of_not_le
    intro hall
    rw [displayed, if_pos hall] at hhidden
    exact Nat.lt_irrefl _ hhidden
  · exact Nat.lt_of_le_of_lt size_displayed_le

/-- A warning is given exactly when the names exceed the cap. -/
theorem warning?_isSome_iff {cap : Nat} :
    (index.warning? cap).isSome ↔ cap < index.names.size := by
  by_cases hall : index.names.size ≤ cap
  · rw [warning?, if_pos hall]
    exact iff_of_false Bool.false_ne_true (Nat.not_lt.mpr hall)
  · rw [warning?, if_neg hall]
    refine iff_of_true ?_ (Nat.lt_of_not_le hall)
    split
    · rfl
    · rfl

/-- The nodes of a report are the names that are shown and have a
definition. -/
theorem mem_functionIds_report {language : Language} {cap : Nat}
    {name : String} :
    name ∈ (index.report language cap).functionIds ↔
      name ∈ index.displayed cap ∧ index.definitionsOf name ≠ [] := by
  constructor
  · intro hname
    obtain ⟨node, hnode, rfl⟩ := List.mem_map.mp hname
    obtain ⟨hmem, hfunction⟩ := List.mem_filter.mp hnode
    cases node with
    | external node => exact absurd hfunction (by simp [GraphNode.isExternal])
    | function node =>
        obtain ⟨hshown, hprimary, _⟩ := function_mem_report.mp hmem
        refine ⟨hshown, fun hnone => ?_⟩
        have hnone : index.definitionsOf node.id = [] := hnone
        rw [primary?, hnone, List.head?_nil] at hprimary
        exact Option.some_ne_none _ hprimary.symm
  · rintro ⟨hshown, hdefined⟩
    obtain ⟨info, rest, hinfos⟩ := List.exists_cons_of_ne_nil hdefined
    have hprimary : index.primary? name = some info := by
      rw [primary?, hinfos, List.head?_cons]
    have hnode : .function ⟨name, info, language, name ∈ index.connected,
        index.occurrenceCount name⟩ ∈ (index.report language cap).nodes :=
      function_mem_report.mpr ⟨hshown, hprimary, rfl, rfl, rfl⟩
    exact List.mem_map.mpr ⟨_, List.mem_filter.mpr ⟨hnode, rfl⟩, rfl⟩

end ProjectIndex

/-- What a cap leaves of the names of an index, and what a report says of
it. -/
structure Report.Capped (report : Report) (index : ProjectIndex)
    (shown : NameSet) (cap : Nat) : Prop where
  nodes : ∀ name, name ∈ report.functionIds ↔
    name ∈ shown ∧ index.definitionsOf name ≠ []
  total_count : report.stats.totalFunctions = index.names.size
  connected_count : report.stats.connectedFunctions = index.connected.size
  displayed_count : report.stats.displayedFunctions = shown.size
  all_shown : index.names.size ≤ cap →
    shown = index.names ∧ report.warning = none
  connected_shown : index.connected.size ≤ cap → cap < index.names.size →
    shown = index.connected
  best_shown : cap < index.connected.size → cap < index.names.size →
    shown.size = cap ∧ (∀ name ∈ shown, name ∈ index.names) ∧
      ∀ name ∈ shown, ∀ other ∈ index.names, other ∉ shown →
        index.Outranks name other
  warns_iff_hides : report.warning.isSome ↔
    report.stats.displayedFunctions < report.stats.totalFunctions
  hides_iff_exceeds :
    report.stats.displayedFunctions < report.stats.totalFunctions ↔
      cap < index.names.size

namespace ProjectIndex

/-- The counts and the warning of a report, for an empty index as well. -/
theorem stats_report_counts (index : ProjectIndex) (language : Language)
    (cap : Nat) :
    (index.report language cap).stats.totalFunctions = index.names.size ∧
      (index.report language cap).stats.connectedFunctions =
        index.connected.size ∧
      (index.report language cap).stats.displayedFunctions =
        (index.displayed cap).size ∧
      (index.report language cap).warning = index.warning? cap := by
  unfold report
  split
  · rename_i hempty
    have hnames : index.names.size = 0 :=
      congrArg List.length (List.isEmpty_iff.mp hempty)
    have hconnected : index.connected.size = 0 :=
      Nat.le_zero.mp (hnames ▸ size_connected_le)
    have hall : index.names.size ≤ cap := hnames ▸ Nat.zero_le cap
    rw [displayed, if_pos hall, warning?, if_pos hall, hnames, hconnected]
    exact ⟨rfl, rfl, rfl, rfl⟩
  · exact ⟨rfl, rfl, rfl, rfl⟩

/-- **Cap selection.**  All names are shown if the cap allows it, else the
connected names, else exactly as many names as the cap says, of which each
outranks every name that is left.  A report warns exactly when it hides
names. -/
theorem report_capped (index : ProjectIndex) (language : Language)
    (cap : Nat) :
    (index.report language cap).Capped index (index.displayed cap) cap := by
  obtain ⟨htotal, hconnected, hdisplayed, hwarning⟩ :=
    stats_report_counts index language cap
  constructor
  case nodes => exact fun _ => mem_functionIds_report
  case total_count => exact htotal
  case connected_count => exact hconnected
  case displayed_count => exact hdisplayed
  case all_shown =>
    intro hall
    rw [hwarning, displayed, if_pos hall, warning?, if_pos hall]
    exact ⟨rfl, rfl⟩
  case connected_shown =>
    intro hlinked hexceeds
    rw [displayed, if_neg (Nat.not_le.mpr hexceeds), if_pos hlinked]
  case best_shown =>
    intro hlinked hexceeds
    rw [displayed, if_neg (Nat.not_le.mpr hexceeds),
      if_neg (Nat.not_le.mpr hlinked)]
    exact ⟨size_best (Nat.le_of_lt hexceeds), fun _ => mem_names_of_mem_best,
      fun _ hname _ => outranks_of_mem_best hname⟩
  case warns_iff_hides =>
    rw [hwarning, hdisplayed, htotal, warning?_isSome_iff,
      size_displayed_lt_iff]
  case hides_iff_exceeds =>
    rw [hdisplayed, htotal, size_displayed_lt_iff]

end ProjectIndex

end CallGraph
