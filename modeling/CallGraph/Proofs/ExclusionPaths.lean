import CallGraph.Exclusion
import Mathlib.Data.List.Basic

/-!
# Exclusion along paths and under more rules

Whether a file is left out depends on the components of its path only, and
these are put together as paths are (`components_append_cons`).  So the
components of a folder in front of a path are all directories, and runs of
separators count as one separator between components and as none at either end.

Rules grow by steps.  What a sequence of steps does is the union of what its
steps do (`extend?_eq_some`), whence rules only ever exclude more, in whichever
order the steps are taken.  Nothing is assumed of how texts are compiled: which
of them are patterns, and which names these match, is arbitrary.
-/

namespace CallGraph

/-- What separates the components of a path. -/
def isSeparator (c : Char) : Bool :=
  c == '/' || c == '\\'

/-- One or more separators. -/
def IsSeparatorRun (run : String) : Prop :=
  run.toList ≠ [] ∧ ∀ c ∈ run.toList, isSeparator c = true

/-- The components of a path, as lists of characters. -/
def components (text : List Char) : List (List Char) :=
  (text.splitOnP isSeparator).filter fun p => !p.isEmpty

theorem pathComponents_eq (path : String) :
    pathComponents path = (components path.toList).map String.ofList :=
  rfl

theorem components_nil : components [] = [] := by
  simp [components]

/-- Everything about components follows from this equation. -/
theorem components_append_cons {sep : Char} (hsep : isSeparator sep = true)
    (before after : List Char) :
    components (before ++ sep :: after) =
      components before ++ components after := by
  rw [components, List.splitOnP_append_cons before after hsep,
    List.filter_append]
  rfl

/-- Separators in front of a text add no component. -/
theorem components_run_append {run : List Char}
    (hrun : ∀ c ∈ run, isSeparator c = true) (text : List Char) :
    components (run ++ text) = components text := by
  induction run with
  | nil => rfl
  | cons c run ih =>
      have hfront := components_append_cons (hrun c List.mem_cons_self) []
        (run ++ text)
      rw [List.nil_append, components_nil, List.nil_append] at hfront
      rw [List.cons_append, hfront]
      exact ih fun d hd => hrun d (List.mem_cons_of_mem _ hd)

/-- A run of separators stands between components as one separator does. -/
theorem pathComponents_append_run {run : String} (hrun : IsSeparatorRun run)
    (before after : String) :
    pathComponents (before ++ run ++ after) =
      pathComponents before ++ pathComponents after := by
  obtain ⟨hne, hall⟩ := hrun
  obtain ⟨c, rest, hcons⟩ := List.exists_cons_of_ne_nil hne
  rw [hcons] at hall
  rw [pathComponents_eq, String.toList_append, String.toList_append, hcons,
    List.append_assoc, List.cons_append,
    components_append_cons (hall c List.mem_cons_self),
    components_run_append fun d hd => hall d (List.mem_cons_of_mem _ hd),
    List.map_append]
  rfl

instance (run : String) : Decidable (IsSeparatorRun run) :=
  decidable_of_iff ((!run.toList.isEmpty && run.toList.all isSeparator) = true)
    (by simp [IsSeparatorRun])

theorem isSeparatorRun_slash : IsSeparatorRun "/" := by
  decide

namespace ExclusionRules

/-- The rules look at the components of a path and at nothing else. -/
theorem excludes_congr (rules : ExclusionRules) {path path' : String}
    (h : pathComponents path = pathComponents path') :
    rules.excludes path = rules.excludes path' := by
  rw [excludes, excludes, h]

/-- A path is excluded by one of its folders or by its last component. -/
theorem excludes_iff (rules : ExclusionRules) (path : String) :
    rules.excludes path = true ↔
      (∃ dir ∈ (pathComponents path).dropLast,
        rules.excludesDirectory dir = true) ∨
      ∃ file ∈ (pathComponents path).getLast?,
        rules.excludesFileName file = true := by
  unfold excludes
  cases hlast : (pathComponents path).getLast? with
  | none =>
      rw [List.getLast?_eq_none_iff.mp hlast]
      simp
  | some file => simp

/-- The components of a folder in front of a path are directories. -/
theorem excludes_append_iff (rules : ExclusionRules) {run : String}
    (hrun : IsSeparatorRun run) (a : String) {b : String}
    (hb : pathComponents b ≠ []) :
    rules.excludes (a ++ run ++ b) = true ↔
      (∃ dir ∈ pathComponents a, rules.excludesDirectory dir = true) ∨
        rules.excludes b = true := by
  rw [excludes_iff, excludes_iff, pathComponents_append_run hrun,
    List.dropLast_append_of_ne_nil hb, List.getLast?_append_of_ne_nil _ hb,
    ← or_assoc]
  simp only [List.mem_append, or_and_right, exists_or]

/-- A way to make rules exclude more. -/
inductive Step
  | directory (name : String)
  | pattern (text : String)

/-- The rules after a step, unless the step has a text that does not compile. -/
def after? (compile : String → Option (String → Bool))
    (rules : ExclusionRules) : Step → Option ExclusionRules
  | .directory name => some (rules.withDirectory name)
  | .pattern text => rules.withCompiled? compile text

/-- The rules after some steps, if all of them succeed. -/
def extend? (compile : String → Option (String → Bool))
    (rules : ExclusionRules) (steps : List Step) : Option ExclusionRules :=
  steps.foldlM (after? compile) rules

/-- The step can be taken. -/
def Step.Succeeds (compile : String → Option (String → Bool)) : Step → Prop
  | .directory _ => True
  | .pattern text => ∃ matching, compile text = some matching

/-- The step excludes directories of this name. -/
def Step.AddsDirectory (name : String) (step : Step) : Prop :=
  step = .directory name

/-- The step excludes files of this name. -/
def Step.AddsFileName (compile : String → Option (String → Bool))
    (name : String) : Step → Prop
  | .directory _ => False
  | .pattern text => ∃ matching ∈ compile text, matching name = true

/-- The rules exclude what others do, and what the steps add. -/
structure Adds (compile : String → Option (String → Bool))
    (rules : ExclusionRules) (steps : List Step) (rules' : ExclusionRules) :
    Prop where
  directory : ∀ name, rules'.excludesDirectory name = true ↔
    rules.excludesDirectory name = true ∨ ∃ s ∈ steps, s.AddsDirectory name
  fileName : ∀ name, rules'.excludesFileName name = true ↔
    rules.excludesFileName name = true ∨
      ∃ s ∈ steps, s.AddsFileName compile name

variable {compile : String → Option (String → Bool)}

/-- A step that succeeds adds what it says and nothing else. -/
theorem after?_adds {rules rules' : ExclusionRules} {step : Step}
    (h : rules.after? compile step = some rules') :
    step.Succeeds compile ∧ rules.Adds compile [step] rules' := by
  cases step with
  | directory name =>
      cases h
      refine ⟨trivial, fun other => ?_, fun file => ?_⟩
      · simp only [excludesDirectory, withDirectory, decide_eq_true_eq,
          NameSet.mem_insert, List.mem_singleton, exists_eq_left,
          Step.AddsDirectory, Step.directory.injEq]
        rw [or_comm, eq_comm]
      · simp [excludesFileName, withDirectory, Step.AddsFileName]
  | pattern text =>
      obtain ⟨matching, hcompile, rfl⟩ := Option.map_eq_some_iff.mp h
      refine ⟨⟨matching, hcompile⟩, fun name => ?_, fun file => ?_⟩
      · simp [excludesDirectory, Step.AddsDirectory]
      · simp [excludesFileName, Step.AddsFileName, hcompile]

/-- Whether a step can be taken does not depend on the rules before it. -/
theorem exists_after? (rules : ExclusionRules) {step : Step}
    (h : step.Succeeds compile) :
    ∃ rules', rules.after? compile step = some rules' := by
  cases step with
  | directory name => exact ⟨_, rfl⟩
  | pattern text =>
      obtain ⟨matching, hcompile⟩ := h
      exact ⟨_, Option.map_eq_some_iff.mpr ⟨matching, hcompile, rfl⟩⟩

/-- What two runs of steps add, one after the other. -/
theorem Adds.trans {rules rules' rules'' : ExclusionRules}
    {steps steps' : List Step} (h : rules.Adds compile steps rules')
    (h' : rules'.Adds compile steps' rules'') :
    rules.Adds compile (steps ++ steps') rules'' := by
  refine ⟨fun name => ?_, fun name => ?_⟩
  · rw [h'.directory, h.directory, or_assoc]
    simp only [List.mem_append, or_and_right, exists_or]
  · rw [h'.fileName, h.fileName, or_assoc]
    simp only [List.mem_append, or_and_right, exists_or]

/-- A sequence of steps that succeeds adds what its steps add. -/
theorem extend?_eq_some {rules rules' : ExclusionRules} {steps : List Step}
    (h : rules.extend? compile steps = some rules') :
    (∀ s ∈ steps, s.Succeeds compile) ∧ rules.Adds compile steps rules' := by
  induction steps generalizing rules with
  | nil =>
      cases h
      refine ⟨fun s hs => absurd hs List.not_mem_nil, fun _ => ?_, fun _ => ?_⟩
      · simp
      · simp
  | cons step steps ih =>
      obtain ⟨next, hnext, hrest⟩ := Option.bind_eq_some_iff.mp
        (List.foldlM_cons.symm.trans h)
      obtain ⟨hstep, hadds⟩ := after?_adds hnext
      obtain ⟨hsteps, hall⟩ := ih hrest
      refine ⟨fun s hs => ?_, hadds.trans hall⟩
      rcases List.mem_cons.mp hs with rfl | hs
      · exact hstep
      · exact hsteps s hs

/-- Steps that can be taken alone can be taken in a row, from any rules. -/
theorem exists_extend? (rules : ExclusionRules) {steps : List Step}
    (h : ∀ s ∈ steps, s.Succeeds compile) :
    ∃ rules', rules.extend? compile steps = some rules' := by
  induction steps generalizing rules with
  | nil => exact ⟨rules, rfl⟩
  | cons step steps ih =>
      obtain ⟨next, hnext⟩ := rules.exists_after? (h step List.mem_cons_self)
      obtain ⟨rules', hrest⟩ :=
        ih next fun s hs => h s (List.mem_cons_of_mem _ hs)
      refine ⟨rules', ?_⟩
      rw [extend?, List.foldlM_cons, hnext]
      exact hrest

/-- Steps take no exclusion back. -/
theorem Adds.excludes_mono {rules rules' : ExclusionRules}
    {steps : List Step} (h : rules.Adds compile steps rules') {path : String}
    (hpath : rules.excludes path = true) : rules'.excludes path = true := by
  rw [excludes_iff] at hpath ⊢
  rcases hpath with ⟨dir, hdir, hexcluded⟩ | ⟨file, hfile, hexcluded⟩
  · exact Or.inl ⟨dir, hdir, (h.directory dir).mpr (Or.inl hexcluded)⟩
  · exact Or.inr ⟨file, hfile, (h.fileName file).mpr (Or.inl hexcluded)⟩

/-- What is added depends on which steps there are only. -/
theorem Adds.excludes_eq {rules first second : ExclusionRules}
    {steps steps' : List Step} (h : rules.Adds compile steps first)
    (h' : rules.Adds compile steps' second)
    (hsame : ∀ s, s ∈ steps ↔ s ∈ steps') (path : String) :
    first.excludes path = second.excludes path := by
  rw [Bool.eq_iff_iff, excludes_iff, excludes_iff]
  simp only [h.directory, h'.directory, h.fileName, h'.fileName, hsame]

/-- Exclusion is compositional in paths, blind to how components are separated,
and monotone in rules, whose order does not matter: whichever texts compile,
and whatever names the patterns match that they compile to. -/
theorem excludes_compositional (rules : ExclusionRules) :
    (∀ a b, pathComponents b ≠ [] →
      (rules.excludes (a ++ "/" ++ b) = true ↔
        (∃ dir ∈ pathComponents a, rules.excludesDirectory dir = true) ∨
          rules.excludes b = true)) ∧
    (∀ before after run run', IsSeparatorRun run → IsSeparatorRun run' →
      rules.excludes (before ++ run ++ after) =
        rules.excludes (before ++ run' ++ after)) ∧
    (∀ path run, IsSeparatorRun run →
      rules.excludes (run ++ path) = rules.excludes path ∧
        rules.excludes (path ++ run) = rules.excludes path) ∧
    ∀ compile steps rules', rules.extend? compile steps = some rules' →
      (∀ path, rules.excludes path = true → rules'.excludes path = true) ∧
      ∀ steps', steps'.Perm steps →
        ∃ rules'', rules.extend? compile steps' = some rules'' ∧
          ∀ path, rules''.excludes path = rules'.excludes path := by
  refine ⟨fun a b hb => rules.excludes_append_iff isSeparatorRun_slash a hb,
    fun before after run run' hrun hrun' => ?_, fun path run hrun => ⟨?_, ?_⟩,
    fun compile steps rules' h =>
      ⟨fun path => (extend?_eq_some h).2.excludes_mono, fun steps' hperm => ?_⟩⟩
  · apply rules.excludes_congr
    rw [pathComponents_append_run hrun, pathComponents_append_run hrun']
  · apply rules.excludes_congr
    rw [pathComponents_eq, String.toList_append, components_run_append hrun.2]
    rfl
  · apply rules.excludes_congr
    have hend := pathComponents_append_run hrun path ""
    rw [String.append_empty] at hend
    rw [hend, pathComponents_eq "", String.toList_empty, components_nil]
    exact List.append_nil _
  · obtain ⟨hsteps, hadds⟩ := extend?_eq_some h
    obtain ⟨rules'', h''⟩ := rules.exists_extend?
      fun s hs => hsteps s (hperm.mem_iff.mp hs)
    exact ⟨rules'', h'', fun path =>
      (extend?_eq_some h'').2.excludes_eq hadds (fun s => hperm.mem_iff) path⟩

/-- The steps of the sample: a directory, then a pattern. -/
def sampleSteps : List Step :=
  [.directory "gen", .pattern "^t_|_t$"]

/-- A directory behind backslashes, a doubled separator, and two steps taken in
either order. -/
theorem excludes_compositional_sample :
    pathComponents "src//t_a.c" ≠ [] ∧
    (usual.excludes ("lib\\build" ++ "/" ++ "src//t_a.c") = true ↔
      (∃ dir ∈ pathComponents "lib\\build",
        usual.excludesDirectory dir = true) ∨
        usual.excludes "src//t_a.c" = true) ∧
    IsSeparatorRun "/" ∧ IsSeparatorRun "\\/\\" ∧
    usual.excludes ("build" ++ "/" ++ "a.c") =
      usual.excludes ("build" ++ "\\/\\" ++ "a.c") ∧
    ∃ rules', usual.extend? compilePattern? sampleSteps = some rules' ∧
      (∀ path, usual.excludes path = true → rules'.excludes path = true) ∧
      ∃ rules'',
        usual.extend? compilePattern? sampleSteps.reverse = some rules'' ∧
        ∀ path, rules''.excludes path = rules'.excludes path := by
  have hcomponents : pathComponents "src//t_a.c" ≠ [] := by
    decide +kernel
  have hrun : IsSeparatorRun "\\/\\" := by
    decide
  have hpattern : (compilePattern? "^t_|_t$").isSome = true := by
    decide +kernel
  have hsucceed : ∀ s ∈ sampleSteps, s.Succeeds compilePattern? := by
    intro s hs
    rcases List.mem_cons.mp hs with rfl | hs
    · trivial
    · rw [List.mem_singleton.mp hs]
      exact Option.isSome_iff_exists.mp hpattern
  obtain ⟨rules', h⟩ := usual.exists_extend? hsucceed
  obtain ⟨hcompose, hruns, -, hsteps⟩ := excludes_compositional usual
  obtain ⟨hmono, horder⟩ := hsteps _ _ _ h
  exact ⟨hcomponents, hcompose _ _ hcomponents, isSeparatorRun_slash, hrun,
    hruns _ _ _ _ isSeparatorRun_slash hrun, rules', h, hmono,
    horder _ (List.reverse_perm _)⟩

end ExclusionRules

end CallGraph
