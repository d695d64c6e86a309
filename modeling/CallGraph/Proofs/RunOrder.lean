import CallGraph.Report.Wire
import CallGraph.Proofs.Runs
import Mathlib.Data.List.Perm.Basic

/-!
# The order of the files does not matter

A run gives the same report whatever order its files come in and however many
workers it has (`analyzeFiles_rearranged`), as long as files of one path keep
their order among themselves.  Everything that looks at the order of the files
looks at it after they were sorted by path.  The sort is stable, so for each
path it keeps the sequence of the reports of that path
(`filter_inPathOrder`), and a list in path order is determined by these
sequences (`eq_of_ascending`).
-/

namespace CallGraph

/-- Lists that agree key by key have the same members. -/
theorem mem_iff_of_filter_eq {α : Type} (key : α → String) {xs ys : List α}
    (h : ∀ k, (xs.filter fun a => key a = k) =
      ys.filter fun a => key a = k) (a : α) : a ∈ xs ↔ a ∈ ys := by
  have hfilter : a ∈ xs.filter (fun b => key b = key a) ↔
      a ∈ ys.filter (fun b => key b = key a) := by
    rw [h]
  simpa using hfilter

/-- A list that ascends by a key is determined by the items of each key.  Both
heads have the least key, so each is the first of its items. -/
theorem eq_of_ascending {α : Type} (key : α → String) {xs ys : List α}
    (hxs : xs.Pairwise fun a b => key a ≤ key b)
    (hys : ys.Pairwise fun a b => key a ≤ key b)
    (h : ∀ k, (xs.filter fun a => key a = k) =
      ys.filter fun a => key a = k) : xs = ys := by
  induction xs generalizing ys with
  | nil =>
      refine (List.eq_nil_iff_forall_not_mem.mpr fun y hy => ?_).symm
      exact List.not_mem_nil ((mem_iff_of_filter_eq key h y).mpr hy)
  | cons x xs ih =>
      have hx : x ∈ ys := (mem_iff_of_filter_eq key h x).mp List.mem_cons_self
      cases ys with
      | nil => exact absurd hx List.not_mem_nil
      | cons y ys =>
          have hy : y ∈ x :: xs :=
            (mem_iff_of_filter_eq key h y).mpr List.mem_cons_self
          obtain ⟨hxleast, hxtail⟩ := List.pairwise_cons.mp hxs
          obtain ⟨hyleast, hytail⟩ := List.pairwise_cons.mp hys
          have hkey : key x = key y := by
            rcases List.mem_cons.mp hy with heq | hy
            · rw [heq]
            · rcases List.mem_cons.mp hx with heq | hx
              · rw [heq]
              · exact String.le_antisymm (hxleast y hy) (hyleast x hx)
          have hhead : x = y := by
            have hitems := h (key x)
            simp only [List.filter_cons, hkey, decide_true, if_true] at hitems
            exact (List.cons.inj hitems).1
          subst hhead
          have htail : ∀ k, (xs.filter fun a => key a = k) =
              ys.filter fun a => key a = k := by
            intro k
            have hitems := h k
            by_cases hk : key x = k
            · simp only [List.filter_cons, hk, decide_true, if_true] at hitems
              exact (List.cons.inj hitems).2
            · simpa [hk] using hitems
          rw [ih hxtail hytail htail]

namespace ProjectIndex

/-- **Stability.**  Sorting by path keeps the sequence of the reports of each
path.  The sequence survives the sort, and no report of the path is added to
it. -/
theorem filter_inPathOrder (reports : List FileReport) (path : String) :
    ((inPathOrder reports).filter fun r => r.path = path) =
      reports.filter fun r => r.path = path := by
  have hpath : ∀ r ∈ reports.filter (fun r => r.path = path),
      r.path = path := by
    intro r hr
    simpa using (List.mem_filter.mp hr).2
  have hascending : (reports.filter fun r => r.path = path).Pairwise
      fun a b => decide (a.path ≤ b.path) = true := by
    refine List.pairwise_of_forall_mem_list fun a ha b hb => ?_
    rw [hpath a ha, hpath b hb]
    exact decide_eq_true (String.le_refl path)
  have hsub : (reports.filter fun r => r.path = path).Sublist
      (inPathOrder reports) :=
    List.sublist_mergeSort pathOrder_trans pathOrder_total hascending
      List.filter_sublist
  have hkept := hsub.filter fun r => decide (r.path = path)
  rw [List.filter_filter] at hkept
  simp only [Bool.and_self] at hkept
  have hlength : (reports.filter fun r => r.path = path).length =
      ((inPathOrder reports).filter fun r => r.path = path).length :=
    ((List.mergeSort_perm reports _).filter _).length_eq.symm
  exact (hkept.eq_of_length hlength).symm

/-- Sorting by path commutes with leaving reports out. -/
theorem inPathOrder_filter (keep : FileReport → Bool)
    (reports : List FileReport) :
    inPathOrder (reports.filter keep) = (inPathOrder reports).filter keep := by
  apply eq_of_ascending FileReport.path (inPathOrder_ascending _)
    ((inPathOrder_ascending reports).filter _)
  intro path
  rw [filter_inPathOrder, List.filter_comm,
    List.filter_comm (l := inPathOrder reports), filter_inPathOrder]

/-- Reports with the same sequence for each path give the same index. -/
theorem ofReports_congr (rules : ExclusionRules)
    {reports others : List FileReport}
    (h : ∀ path, (reports.filter fun r => r.path = path) =
      others.filter fun r => r.path = path) :
    ofReports rules reports = ofReports rules others := by
  have hsorted : inPathOrder reports = inPathOrder others := by
    apply eq_of_ascending FileReport.path (inPathOrder_ascending reports)
      (inPathOrder_ascending others)
    intro path
    rw [filter_inPathOrder, filter_inPathOrder, h]
  unfold ofReports
  rw [hsorted]

end ProjectIndex

/-- The same files in another order, where files of one path keep theirs. -/
def Rearranged (files others : List SourceFile) : Prop :=
  files.Perm others ∧ ∀ path, (files.filter fun f => f.path = path) =
    others.filter fun f => f.path = path

/-- The reports on one path come from the files of that path, in their order.
-/
theorem Options.filter_reportsOn (options : Options) (grammar : Grammar)
    (language : Language) (files : List SourceFile) (path : String) :
    ((options.reportsOn grammar language files).filter
        fun r => r.path = path) =
      options.reportsOn grammar language
        (files.filter fun f => f.path = path) := by
  unfold reportsOn
  rw [List.filter_map, List.filter_filter, List.filter_filter]
  congr 1
  refine List.filter_congr fun f _ => ?_
  simp only [Function.comp_def, reportOn_path, Bool.and_comm]

/-- The number of workers does not matter. -/
theorem analyzeFiles_workers (grammar : Grammar) (options : Options)
    (workers : Nat) (files : List SourceFile) :
    analyzeFiles grammar { options with workers := workers } files =
      analyzeFiles grammar options files := by
  rw [analyzeFiles_eq, analyzeFiles_eq]
  rfl

/-- **Order independence.**  Rearranging the files and changing the number of
workers changes neither the report nor its text. -/
theorem analyzeFiles_rearranged (grammar : Grammar) (options : Options)
    (workers : Nat) (files others : List SourceFile)
    (h : Rearranged files others) :
    analyzeFiles grammar { options with workers := workers } others =
        analyzeFiles grammar options files ∧
      (analyzeFiles grammar { options with workers := workers }
        others).render = (analyzeFiles grammar options files).render := by
  obtain ⟨hperm, hsequences⟩ := h
  have hlanguage : options.languageFor (others.map (·.path)) =
      options.languageFor (files.map (·.path)) :=
    Options.languageFor_congr fun _ => (hperm.map _).mem_iff.symm
  have hindex : ∀ language,
      ProjectIndex.ofReports options.exclusions
          (options.reportsOn grammar language others) =
        ProjectIndex.ofReports options.exclusions
          (options.reportsOn grammar language files) := by
    intro language
    apply ProjectIndex.ofReports_congr
    intro path
    rw [Options.filter_reportsOn, Options.filter_reportsOn, hsequences]
  have hreport : analyzeFiles grammar { options with workers := workers }
      others = analyzeFiles grammar options files := by
    rw [analyzeFiles_workers, analyzeFiles_eq, analyzeFiles_eq, hlanguage]
    unfold Options.conclude
    simp only [hindex]
  exact ⟨hreport, by rw [hreport]⟩

/-- Two files of one path keep their order while a third moves between them. -/
theorem analyzeFiles_rearranged_sample :
    Rearranged
        [selfCallFile "b.py", ⟨"a.py", ""⟩, selfCallFile "a.py"]
        [⟨"a.py", ""⟩, selfCallFile "b.py", selfCallFile "a.py"] ∧
      analyzeFiles selfCallGrammar { workers := 3 }
          [⟨"a.py", ""⟩, selfCallFile "b.py", selfCallFile "a.py"] =
        analyzeFiles selfCallGrammar {}
          [selfCallFile "b.py", ⟨"a.py", ""⟩, selfCallFile "a.py"] := by
  have hrearranged : Rearranged
      [selfCallFile "b.py", ⟨"a.py", ""⟩, selfCallFile "a.py"]
      [⟨"a.py", ""⟩, selfCallFile "b.py", selfCallFile "a.py"] := by
    refine ⟨.swap _ _ _, ?_⟩
    intro path
    by_cases hb : path = "b.py"
    · subst hb
      rfl
    · have hne : ¬ "b.py" = path := fun h => hb h.symm
      simp [List.filter_cons, selfCallFile, hne]
  refine ⟨hrearranged, ?_⟩
  exact (analyzeFiles_rearranged selfCallGrammar {} 3 _ _ hrearranged).1

end CallGraph
