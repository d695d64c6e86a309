import CallGraph.Proofs.GraphShape
import Mathlib.Data.List.Nodup

/-!
# The order of insertion

An index keeps its names and its calls in the order in which they came, and
the graph is built by going through them.  Of that order nothing but the files
of the edges can be seen in a report (`report_insertionOrder`).

Two maps with the same values have the same entries up to their order
(`OrderedMap.entries_perm`).  A table of calls forgets the order of the pairs
from which it is made (`CallMap.ofPairs_perm`), and all that is shown is chosen
from this table, from the set of names and from the definitions of each name.
Only counts over all definitions and the first file of a call go through the
entries themselves: counts do not depend on the order, and the first file is
what is left out.
-/

namespace CallGraph

/-- Maps with the same values differ in the order of their entries only. -/
theorem OrderedMap.entries_perm {κ ν : Type} [DecidableEq κ]
    {m n : OrderedMap κ ν} (h : ∀ k, m.get? k = n.get? k) :
    m.entries.Perm n.entries := by
  have hm : m.entries.Nodup := List.Nodup.of_map Prod.fst m.nodup
  have hn : n.entries.Nodup := List.Nodup.of_map Prod.fst n.nodup
  rw [List.perm_ext_iff_of_nodup hm hn]
  intro e
  have hfirst : e ∈ m.entries ↔ m.get? e.1 = some e.2 := mem_entries_iff
  have hsecond : e ∈ n.entries ↔ n.get? e.1 = some e.2 := mem_entries_iff
  rw [hfirst, hsecond, h]

/-- A table of calls does not depend on the order of its pairs. -/
theorem CallMap.ofPairs_perm {pairs others : List (String × NameSet)}
    (h : pairs.Perm others) : ofPairs pairs = ofPairs others := by
  have hcallers : NameSet.ofList (pairs.map Prod.fst) =
      NameSet.ofList (others.map Prod.fst) := by
    apply NameSet.ext
    intro caller
    rw [NameSet.mem_ofList, NameSet.mem_ofList]
    exact (h.map Prod.fst).mem_iff
  have htargets : calledBy pairs = calledBy others := by
    funext caller
    apply NameSet.ext
    intro target
    rw [mem_calledBy, mem_calledBy]
    simp only [h.mem_iff]
  unfold ofPairs
  simp only [hcallers, htargets]

/-- An edge without its file. -/
def Edge.withoutFile (edge : Edge) : Edge := { edge with file := none }

/-- A report without the files of its edges. -/
def Report.withoutFiles (report : Report) : Report :=
  { report with edges := report.edges.map Edge.withoutFile }

namespace ProjectIndex

/-- Two indexes hold the same names, definitions, calls, messages and counts
of what was analysed, each in an order of its own. -/
structure SameContents (first second : ProjectIndex) : Prop where
  registry : ∀ name, first.registry.get? name = second.registry.get? name
  calls : ∀ site, first.calls.get? site = second.calls.get? site
  errors : first.errors = second.errors
  filesProcessed : first.filesProcessed = second.filesProcessed
  outline : first.outline = second.outline

namespace SameContents

variable {first second : ProjectIndex} (h : first.SameContents second)
include h

/-- The names do not depend on the order of insertion. -/
theorem names : first.names = second.names := by
  apply NameSet.ext
  intro name
  rw [mem_names, mem_names, OrderedMap.mem_keys_iff, OrderedMap.mem_keys_iff,
    h.registry]

/-- Nor do the definitions of a name, with their order. -/
theorem definitionsOf : first.definitionsOf = second.definitionsOf := by
  funext name
  unfold ProjectIndex.definitionsOf
  rw [h.registry]

theorem callTable : first.callTable = second.callTable := by
  have hentries := OrderedMap.entries_perm h.calls
  exact CallMap.ofPairs_perm (hentries.map fun e => (e.1.2, e.2))

/-- All definitions are the same up to their order. -/
theorem allDefinitions_perm :
    first.allDefinitions.Perm second.allDefinitions := by
  have hentries := OrderedMap.entries_perm h.registry
  have hvalues : first.registry.values.Perm second.registry.values :=
    hentries.map Prod.snd
  exact hvalues.flatten

/-- The connected names do not depend on the order of insertion. -/
theorem connected : first.connected = second.connected := by
  unfold ProjectIndex.connected
  rw [h.names, h.callTable]

theorem scored : first.scored = second.scored := by
  unfold ProjectIndex.scored occurrenceCount
  rw [h.names, h.callTable, h.definitionsOf]

/-- Which names are shown, and what is said of it. -/
theorem displayed (cap : Nat) :
    first.displayed cap = second.displayed cap ∧
      first.warning? cap = second.warning? cap := by
  constructor
  · unfold ProjectIndex.displayed best
    rw [h.names, h.connected, h.scored]
  · unfold warning?
    rw [h.names, h.connected]

theorem externals (language : Language) :
    first.externals language = second.externals language := by
  unfold ProjectIndex.externals
  rw [h.names, h.callTable]

/-- The edges join the same names in the same order. -/
theorem edges (language : Language) (cap : Nat) :
    (first.edges language cap).map Edge.withoutFile =
      (second.edges language cap).map Edge.withoutFile := by
  have hcaller : ∀ shown outside caller targets,
      (first.edgesFrom shown outside caller targets).map Edge.withoutFile =
        (second.edgesFrom shown outside caller targets).map
          Edge.withoutFile := by
    intro shown outside caller targets
    unfold edgesFrom
    rw [List.map_map, List.map_map]
    rfl
  unfold ProjectIndex.edges shownExternals
  rw [h.callTable, (h.displayed cap).1, h.externals, List.map_flatMap,
    List.map_flatMap]
  simp only [hcaller]

/-- Nor do the nodes, with their order. -/
theorem nodes (language : Language) (cap : Nat) :
    first.nodes language cap = second.nodes language cap := by
  have htargets : (first.edges language cap).map (·.target) =
      (second.edges language cap).map (·.target) := by
    have hends := congrArg (List.map Edge.target) (h.edges language cap)
    rwa [List.map_map, List.map_map] at hends
  have hnode : first.functionNode? = second.functionNode? := by
    funext _ _ name
    unfold functionNode? primary? occurrenceCount
    rw [h.definitionsOf]
  unfold ProjectIndex.nodes shownExternals
  rw [(h.displayed cap).1, h.connected, h.externals, htargets, hnode]

theorem tallies (language : Language) :
    first.tallies language = second.tallies language := by
  have hcounts : first.countWhere = second.countWhere := by
    funext p
    exact h.allDefinitions_perm.countP_eq p
  unfold ProjectIndex.tallies
  rw [hcounts, h.outline]

/-- Nor do the statistics. -/
theorem stats (language : Language) (cap : Nat) :
    first.stats language cap = second.stats language cap := by
  have htotal : first.totalDefinitions = second.totalDefinitions :=
    h.allDefinitions_perm.length_eq
  have hcalls : (first.edges language cap).length =
      (second.edges language cap).length := by
    have hlength := congrArg List.length (h.edges language cap)
    rwa [List.length_map, List.length_map] at hlength
  unfold ProjectIndex.stats
  rw [h.names, htotal, (h.displayed cap).1, hcalls, h.connected, h.externals,
    h.filesProcessed, h.tallies]

end SameContents

/-- **Insertion order.**  Indexes that hold the same give the same report, up
to the files of its edges. -/
theorem report_insertionOrder (first second : ProjectIndex)
    (h : first.SameContents second) (language : Language) (cap : Nat) :
    (first.report language cap).withoutFiles =
      (second.report language cap).withoutFiles := by
  unfold report Report.withoutFiles
  rw [h.names, h.errors, h.filesProcessed]
  split
  · rfl
  · rw [h.nodes, h.stats, (h.displayed cap).2, h.edges]

/-- A function with two definitions calls another one in both files. -/
def calledTwiceIndex : ProjectIndex where
  registry := ⟨[
    ("f", [{ name := "f", filePath := "a.py", line := 1 },
      { name := "f", filePath := "b.py", line := 1 }]),
    ("g", [{ name := "g", filePath := "a.py", line := 3 }])], by decide⟩
  calls := ⟨[
    (("a.py", "f"), .ofList ["g", "requests.get"]),
    (("b.py", "f"), .ofList ["g"])], by decide⟩
  filesProcessed := 2

/-- The same, with the names and the calls the other way round. -/
def calledTwiceReversed : ProjectIndex where
  registry := ⟨calledTwiceIndex.registry.entries.reverse, by decide⟩
  calls := ⟨calledTwiceIndex.calls.entries.reverse, by decide⟩
  filesProcessed := 2

/-- Inserting the two files the other way round gives the same contents. -/
theorem calledTwice_sameContents :
    calledTwiceIndex.SameContents calledTwiceReversed where
  registry := by
    intro name
    by_cases hf : "f" = name
    · subst hf
      rfl
    · by_cases hg : "g" = name
      · subst hg
        rfl
      · simp [calledTwiceReversed, calledTwiceIndex, OrderedMap.get?, hf, hg]
  calls := by
    intro site
    by_cases ha : ("a.py", "f") = site
    · subst ha
      rfl
    · by_cases hb : ("b.py", "f") = site
      · subst hb
        rfl
      · simp [calledTwiceReversed, calledTwiceIndex, OrderedMap.get?, ha, hb]
  errors := rfl
  filesProcessed := rfl
  outline := rfl

/-- The two reports differ in the file of an edge and in nothing else. -/
theorem report_insertionOrder_calledTwice :
    calledTwiceIndex.SameContents calledTwiceReversed ∧
      (calledTwiceIndex.report .python 2).edges ≠
        (calledTwiceReversed.report .python 2).edges ∧
      (calledTwiceIndex.report .python 2).withoutFiles =
        (calledTwiceReversed.report .python 2).withoutFiles := by
  refine ⟨calledTwice_sameContents, ?_, ?_⟩
  · decide +kernel
  · exact report_insertionOrder _ _ calledTwice_sameContents .python 2

end ProjectIndex

end CallGraph
