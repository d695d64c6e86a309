import CallGraph.Proofs.Runs

/-!
# What excluded files can change

Excluded files are not analysed, but a run that has to find its language looks
at all paths, the excluded ones too.  So an excluded file can change a run in
one way only: by changing the language (`analyzeFiles_kept_iff_choice`).  When
some file that is left in has a language, that happens exactly if no file that
is left in has the language found from all of them (`analyzeFiles_kept_iff`).
-/

namespace CallGraph

namespace Language

/-- A language found for a project is that of one of its files. -/
theorem exists_of_detectProject? {paths : List String} {language : Language}
    (h : detectProject? paths = some language) :
    ∃ path ∈ paths, detect? path = some language := by
  have hany := List.find?_some h
  simpa using hany

/-- A project has a language as soon as one of its files has. -/
theorem detectProject?_isSome {paths : List String} {path : String}
    (hpath : path ∈ paths) (h : (detect? path).isSome) :
    (detectProject? paths).isSome := by
  obtain ⟨language, hlanguage⟩ := Option.isSome_iff_exists.mp h
  unfold detectProject?
  rw [List.find?_isSome]
  refine ⟨language, ?_, ?_⟩
  · cases language <;> simp
  · rw [List.any_eq_true]
    exact ⟨path, hpath, decide_eq_true hlanguage⟩

/-- Files can leave a project without changing its language, as long as one of
that language stays.  A language that is tried earlier has no file, hence none
that stays. -/
theorem detectProject?_of_subset {paths others : List String}
    {language : Language} (hsubset : ∀ path ∈ others, path ∈ paths)
    (h : detectProject? paths = some language)
    (hstays : ∃ path ∈ others, detect? path = some language) :
    detectProject? others = some language := by
  unfold detectProject? at h ⊢
  rw [List.find?_eq_some_iff_append] at h ⊢
  obtain ⟨_, before, after, hlist, hbefore⟩ := h
  refine ⟨?_, before, after, hlist, ?_⟩
  · simpa using hstays
  · intro earlier hearlier
    have hnone := hbefore earlier hearlier
    simp only [Bool.not_eq_true', List.any_eq_false] at hnone ⊢
    exact fun path hpath => hnone path (hsubset path hpath)

end Language

namespace Options

variable {options : Options} {files : List SourceFile}

/-- The files that the rules of a run leave in. -/
def kept (options : Options) (files : List SourceFile) : List SourceFile :=
  files.filter fun f => !options.exclusions.excludes f.path

/-- The kept files are those that no rule excludes. -/
theorem mem_kept {file : SourceFile} :
    file ∈ options.kept files ↔
      file ∈ files ∧ options.exclusions.excludes file.path = false := by
  simp [kept]

/-- What a run selects is not excluded. -/
theorem selects_and_kept (language : Language) (path : String) :
    (options.selects language path && !options.exclusions.excludes path) =
      options.selects language path := by
  unfold selects
  rw [Bool.and_assoc, Bool.and_self]

/-- The excluded files have no part in the reports. -/
theorem reportsOn_kept (grammar : Grammar) (language : Language) :
    options.reportsOn grammar language (options.kept files) =
      options.reportsOn grammar language files := by
  unfold reportsOn kept
  simp only [List.filter_filter, selects_and_kept]

/-- Whether a language has a file to analyze does not depend on the excluded
ones. -/
theorem any_selects_kept (language : Language) :
    ((options.kept files).map (·.path)).any (options.selects language) =
      (files.map (·.path)).any (options.selects language) := by
  unfold kept
  rw [List.any_map, List.any_map, List.any_filter]
  congr 1
  funext f
  rw [Bool.and_comm]
  exact selects_and_kept language f.path

/-- Excluded files matter to the choice of the language only through the
language that is found. -/
theorem languageFor_kept
    (h : options.language.or
        (Language.detectProject? ((options.kept files).map (·.path))) =
      options.language.or (Language.detectProject? (files.map (·.path)))) :
    options.languageFor ((options.kept files).map (·.path)) =
      options.languageFor (files.map (·.path)) := by
  unfold languageFor
  rw [h]
  simp only [any_selects_kept]

end Options

/-- The report of an index names the language it was asked for. -/
theorem ProjectIndex.language_report (index : ProjectIndex)
    (language : Language) (cap : Nat) :
    (index.report language cap).language = some language := by
  unfold report
  split
  · rfl
  · rfl

/-- A report tells the language that was chosen or found, even if no file is
of that language. -/
theorem language_analyzeFiles (grammar : Grammar) (options : Options)
    (files : List SourceFile) :
    (analyzeFiles grammar options files).language =
      options.language.or
        (Language.detectProject? (files.map (·.path))) := by
  rw [analyzeFiles_eq]
  unfold Options.languageFor
  cases options.language.or
      (Language.detectProject? (files.map (·.path))) with
  | none => rfl
  | some language =>
      dsimp only
      by_cases hany :
          (files.map (·.path)).any (options.selects language) = true
      · rw [if_pos hany]
        exact ProjectIndex.language_report _ language options.cap
      · rw [if_neg hany]
        rfl

/-- Leaving the excluded files away keeps the report exactly when it keeps the
language. -/
theorem analyzeFiles_kept_iff_choice (grammar : Grammar) (options : Options)
    (files : List SourceFile) :
    analyzeFiles grammar options (options.kept files) =
        analyzeFiles grammar options files ↔
      options.language.or
          (Language.detectProject? ((options.kept files).map (·.path))) =
        options.language.or
          (Language.detectProject? (files.map (·.path))) := by
  constructor
  · intro hreport
    rw [← language_analyzeFiles grammar, ← language_analyzeFiles grammar,
      hreport]
  · intro hchoice
    rw [analyzeFiles_eq, analyzeFiles_eq, Options.languageFor_kept hchoice]
    simp only [Options.reportsOn_kept]

/-- Leaving the excluded files away keeps the language that is found exactly
when a file of that language is left in. -/
theorem detectProject?_kept_iff {options : Options} {files : List SourceFile}
    (h : ∃ f ∈ files, options.exclusions.excludes f.path = false ∧
      (Language.detect? f.path).isSome) :
    Language.detectProject? ((options.kept files).map (·.path)) =
        Language.detectProject? (files.map (·.path)) ↔
      ∃ f ∈ files, options.exclusions.excludes f.path = false ∧
        Language.detect? f.path =
          Language.detectProject? (files.map (·.path)) := by
  obtain ⟨g, hg, hgkept, hgsome⟩ := h
  constructor
  · intro heq
    have hgpath : g.path ∈ (options.kept files).map (·.path) :=
      List.mem_map_of_mem (Options.mem_kept.mpr ⟨hg, hgkept⟩)
    obtain ⟨language, hlanguage⟩ := Option.isSome_iff_exists.mp
      (Language.detectProject?_isSome hgpath hgsome)
    obtain ⟨path, hpath, hdetect⟩ :=
      Language.exists_of_detectProject? hlanguage
    obtain ⟨f, hf, rfl⟩ := List.mem_map.mp hpath
    obtain ⟨hfile, hkept⟩ := Options.mem_kept.mp hf
    exact ⟨f, hfile, hkept, by rw [hdetect, ← heq, hlanguage]⟩
  · intro hstays
    obtain ⟨f, hf, hkept, hdetect⟩ := hstays
    obtain ⟨language, hlanguage⟩ := Option.isSome_iff_exists.mp
      (Language.detectProject?_isSome (List.mem_map_of_mem hg) hgsome)
    rw [hlanguage] at hdetect ⊢
    refine Language.detectProject?_of_subset ?_ hlanguage
      ⟨f.path, List.mem_map_of_mem (Options.mem_kept.mpr ⟨hf, hkept⟩),
        hdetect⟩
    intro path hpath
    obtain ⟨file, hfile, rfl⟩ := List.mem_map.mp hpath
    exact List.mem_map_of_mem (Options.mem_kept.mp hfile).1

/-- **Influence of excluded files.**  If some file that is left in has a
language, the excluded files have no influence on a run exactly when the run is
given its language or a file that is left in has the language found from all
files. -/
theorem analyzeFiles_kept_iff (grammar : Grammar) (options : Options)
    (files : List SourceFile)
    (h : ∃ f ∈ files, options.exclusions.excludes f.path = false ∧
      (Language.detect? f.path).isSome) :
    analyzeFiles grammar options (options.kept files) =
        analyzeFiles grammar options files ↔
      options.language.isSome ∨
        ∃ f ∈ files, options.exclusions.excludes f.path = false ∧
          Language.detect? f.path =
            Language.detectProject? (files.map (·.path)) := by
  rw [analyzeFiles_kept_iff_choice]
  cases options.language with
  | none =>
      rw [Option.none_or, Option.none_or, detectProject?_kept_iff h]
      simp
  | some language => simp

/-- Rules that exclude one directory. -/
def withoutBuild : Options := { exclusions := .withDirectory .none "build" }

/-- An excluded file of the language of the others has no influence. -/
theorem analyzeFiles_kept_sameLanguage :
    (∃ f ∈ [selfCallFile "build/gen.py", selfCallFile "app.py"],
        withoutBuild.exclusions.excludes f.path = false ∧
          (Language.detect? f.path).isSome) ∧
      analyzeFiles selfCallGrammar withoutBuild
          (withoutBuild.kept
            [selfCallFile "build/gen.py", selfCallFile "app.py"]) =
        analyzeFiles selfCallGrammar withoutBuild
          [selfCallFile "build/gen.py", selfCallFile "app.py"] := by
  have hfile : ∃ f ∈ [selfCallFile "build/gen.py", selfCallFile "app.py"],
      withoutBuild.exclusions.excludes f.path = false ∧
        (Language.detect? f.path).isSome := by
    decide +kernel
  refine ⟨hfile, (analyzeFiles_kept_iff _ _ _ hfile).mpr (Or.inr ?_)⟩
  decide +kernel

/-- **Excluded files can choose the language.**  An excluded C++ file makes a
run over a Python file look for C++ files, and the run differs from that
without the excluded file. -/
theorem excludedFile_changes_run :
    (∃ f ∈ [⟨"build/gen.cpp", ""⟩, selfCallFile "app.py"],
        withoutBuild.exclusions.excludes f.path = false ∧
          (Language.detect? f.path).isSome) ∧
      analyzeFiles selfCallGrammar withoutBuild
          (withoutBuild.kept
            [⟨"build/gen.cpp", ""⟩, selfCallFile "app.py"]) ≠
        analyzeFiles selfCallGrammar withoutBuild
          [⟨"build/gen.cpp", ""⟩, selfCallFile "app.py"] := by
  refine ⟨by decide +kernel, ?_⟩
  rw [ne_eq, analyzeFiles_kept_iff_choice]
  decide +kernel

end CallGraph
