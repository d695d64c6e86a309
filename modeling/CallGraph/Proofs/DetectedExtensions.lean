import CallGraph.Proofs.ExcludedFiles
import CallGraph.Proofs.TextPieces

/-!
# Detected and selected files

Files are selected by how their path ends, and languages are detected by the
extension of the file name, each by a table of its own.  Both read the path in
lower case.  Lowering neither makes nor removes slashes and full stops
(`Text.mem_of_mem_lowerFrom`), so a path with a plain file name still has one
afterwards.  For such a path the two ways of reading it agree
(`extensionOf?_eq_some_iff`, `suffix_iff_of_endsInName`), and what is left is to
compare the tables: they differ in the header ending `.h` only, which counts as
C when detected and as C and C++ when selected.
-/

namespace CallGraph

namespace Text

/-- A character that comes before the capital letters and is not the null
character, as slashes and full stops do. -/
def IsMark (mark : Char) : Prop :=
  0 < mark.toNat ∧ mark.toNat < 0x41

/-- Where every run of a table leads to codes from some bound on, so does the
table. -/
theorem le_of_caseImage? {runs : List CaseRun} {least n m : Nat}
    (hruns : ∀ r ∈ runs, least ≤ r.target) (h : caseImage? runs n = some m) :
    least ≤ m := by
  fun_induction caseImage? runs n with
  | case1 => cases h
  | case2 => cases h
  | case3 r rest n _ image himage =>
      have hleast := hruns r List.mem_cons_self
      unfold CaseRun.image? at himage
      split at himage
      · cases himage
        cases h
        omega
      · cases himage
  | case4 r rest n _ _ ih =>
      exact ih (fun r hr => hruns r (List.mem_cons_of_mem _ hr)) h

/-- No lower case form is below `a`: a mark is never the lower case of a
letter. -/
theorem least_target_lowerRuns : ∀ r ∈ lowerRuns, 0x61 ≤ r.target := by
  decide +kernel

/-- Lowering leaves a mark alone. -/
theorem lowerChar_mark {mark : Char} (hmark : IsMark mark) :
    lowerChar mark = [mark] := by
  have himage : caseImage? lowerRuns mark.toNat = none := by
    rw [lowerRuns, caseImage?, if_pos hmark.2]
  have hne : mark.toNat ≠ 0x130 := by
    have := hmark.2
    omega
  rw [lowerChar, if_neg hne, himage]

/-- A number that is no code point stands for the null character. -/
theorem toNat_ofNat_eq_or (n : Nat) :
    (Char.ofNat n).toNat = n ∨ (Char.ofNat n).toNat = 0 := by
  by_cases h : n.isValidChar
  · left
    rw [Char.ofNat, dif_pos h]
    rfl
  · right
    rw [Char.ofNat, dif_neg h]
    rfl

/-- No other character has a mark in its lower-case form. -/
theorem eq_of_mem_lowerChar {mark c : Char} (hmark : IsMark mark)
    (h : mark ∈ lowerChar c) : c = mark := by
  have hpos := hmark.1
  have hlow := hmark.2
  unfold lowerChar at h
  split at h
  · rcases List.mem_cons.mp h with rfl | h
    · exact absurd hlow (by decide)
    · rw [List.mem_singleton.mp h] at hlow
      exact absurd hlow (by decide)
  · split at h
    · next n himage =>
        have hn := le_of_caseImage? least_target_lowerRuns himage
        rw [List.mem_singleton.mp h] at hpos hlow
        rcases toNat_ofNat_eq_or n with heq | heq <;> omega
    · exact (List.mem_singleton.mp h).symm

/-- No character is lost when it is lowered. -/
theorem lowerChar_ne_nil (c : Char) : lowerChar c ≠ [] := by
  unfold lowerChar
  split
  · exact List.cons_ne_nil _ _
  · split <;> exact List.cons_ne_nil _ _

/-- What lowering does at one character.  Neither the capital sigma nor one of
its two lower-case forms is a mark. -/
theorem exists_lowerFrom_cons (before : List Char) (c : Char)
    (rest : List Char) :
    ∃ here,
      lowerFrom before (c :: rest) = here ++ lowerFrom (c :: before) rest ∧
      here ≠ [] ∧ (∀ mark ∈ here, IsMark mark → c = mark) ∧
      (IsMark c → here = [c]) := by
  refine ⟨_, rfl, ?_⟩
  by_cases hc : c = 'Σ'
  · have hcapital : ¬IsMark c := fun h => absurd (hc ▸ h.2) (by decide)
    have hone : ∀ d, ¬IsMark d →
        [d] ≠ [] ∧ (∀ mark ∈ [d], IsMark mark → c = mark) ∧
          (IsMark c → [d] = [c]) := by
      intro d hd
      refine ⟨List.cons_ne_nil _ _, fun mark hmem hmark => ?_, fun h => ?_⟩
      · rw [List.mem_singleton.mp hmem] at hmark
        exact absurd hmark hd
      · exact absurd h hcapital
    rw [if_pos hc]
    split
    · exact hone 'ς' fun h => absurd h.2 (by decide)
    · exact hone 'σ' fun h => absurd h.2 (by decide)
  · rw [if_neg hc]
    exact ⟨lowerChar_ne_nil c, fun mark hmem hmark =>
      eq_of_mem_lowerChar hmark hmem, lowerChar_mark⟩

/-- A mark in a lowered text was there before. -/
theorem mem_of_mem_lowerFrom {mark : Char} (hmark : IsMark mark)
    {before cs : List Char} (h : mark ∈ lowerFrom before cs) : mark ∈ cs := by
  induction cs generalizing before with
  | nil => exact absurd h List.not_mem_nil
  | cons c cs ih =>
      obtain ⟨here, heq, -, honly, -⟩ := exists_lowerFrom_cons before c cs
      rw [heq] at h
      rcases List.mem_append.mp h with hhere | hrest
      · rw [honly mark hhere hmark]
        exact List.mem_cons_self
      · exact List.mem_cons_of_mem _ (ih hrest)

/-- A text in two parts is lowered part by part, the second in the light of the
first. -/
theorem exists_lowerFrom_append (before xs ys : List Char) :
    ∃ lowered, lowerFrom before (xs ++ ys) =
      lowered ++ lowerFrom (xs.reverse ++ before) ys := by
  induction xs generalizing before with
  | nil => exact ⟨[], rfl⟩
  | cons x xs ih =>
      obtain ⟨here, heq, -⟩ := exists_lowerFrom_cons before x (xs ++ ys)
      obtain ⟨lowered, hrest⟩ := ih (x :: before)
      refine ⟨here ++ lowered, ?_⟩
      rw [List.cons_append, heq, hrest, List.reverse_cons, List.append_assoc,
        List.append_assoc]
      rfl

end Text

/-- A file name that is not empty, does not start with a full stop and holds
no slash. -/
structure IsPlainName (name : List Char) : Prop where
  ne_nil : name ≠ []
  no_stop : name.head? ≠ some '.'
  no_slash : '/' ∉ name

/-- The text ends in a plain file name: it is one, or one follows its last
slash. -/
def EndsInName (text name : List Char) : Prop :=
  IsPlainName name ∧ (text = name ∨ ∃ folder, text = folder ++ '/' :: name)

/-- What follows the last slash of the path is neither empty nor starts with a
full stop. -/
def HasPlainName (path : String) : Prop :=
  ∃ name, (path.toList.splitOn '/').getLast? = some name ∧ name ≠ [] ∧
    name.head? ≠ some '.'

/-- A path with a plain name is some folders, a separator and the name. -/
theorem HasPlainName.endsInName {path : String} (h : HasPlainName path) :
    ∃ name, EndsInName path.toList name := by
  obtain ⟨name, hlast, hne, hstop⟩ := h
  rw [List.splitOn_eq_splitOnP] at hlast
  rcases exists_lastPiece (· == '/') path.toList with
    hnone | ⟨folder, sep, piece, heq, hsep, hpiece⟩
  · rw [List.splitOnP_eq_singleton hnone, List.getLast?_singleton] at hlast
    cases hlast
    refine ⟨_, ⟨hne, hstop, fun hmem => ?_⟩, Or.inl rfl⟩
    exact absurd (hnone _ hmem) (by decide)
  · rw [heq, @splitOnP_concat _ (· == '/') folder _ hsep _ hpiece,
      List.getLast?_concat] at hlast
    cases hlast
    refine ⟨_, ⟨hne, hstop, fun hmem => ?_⟩, Or.inr ⟨folder, ?_⟩⟩
    · exact absurd (hpiece _ hmem) (by decide)
    · rw [heq, eq_of_beq hsep]

theorem isMark_slash : Text.IsMark '/' := by
  unfold Text.IsMark
  decide

theorem isMark_stop : Text.IsMark '.' := by
  unfold Text.IsMark
  decide

/-- A plain name stays plain when it is lowered. -/
theorem IsPlainName.lowerFrom {name : List Char} (h : IsPlainName name)
    (before : List Char) : IsPlainName (Text.lowerFrom before name) := by
  cases name with
  | nil => exact absurd rfl h.ne_nil
  | cons c rest =>
      obtain ⟨here, heq, hne, honly, -⟩ :=
        Text.exists_lowerFrom_cons before c rest
      refine ⟨?_, ?_, fun hslash =>
        h.no_slash (Text.mem_of_mem_lowerFrom isMark_slash hslash)⟩
      · rw [heq]
        exact List.append_ne_nil_of_left_ne_nil hne _
      · intro hstop
        obtain ⟨d, tail, rfl⟩ := List.exists_cons_of_ne_nil hne
        rw [heq] at hstop
        cases hstop
        have hc := honly '.' List.mem_cons_self isMark_stop
        exact h.no_stop (by rw [hc]; rfl)

/-- A path that ends in a plain name still does when it is lowered. -/
theorem EndsInName.lower {path : String} {name : List Char}
    (h : EndsInName path.toList name) :
    ∃ lowered, EndsInName (Text.lower path).toList lowered := by
  obtain ⟨hname, heq | ⟨folder, heq⟩⟩ := h
  · refine ⟨_, hname.lowerFrom [], Or.inl ?_⟩
    rw [Text.lower, String.toList_ofList, heq]
  · obtain ⟨lowered, happend⟩ :=
      Text.exists_lowerFrom_append [] folder ('/' :: name)
    obtain ⟨here, hcons, -, -, hslash⟩ :=
      Text.exists_lowerFrom_cons (folder.reverse ++ []) '/' name
    refine ⟨_, hname.lowerFrom ('/' :: (folder.reverse ++ [])),
      Or.inr ⟨lowered, ?_⟩⟩
    rw [Text.lower, String.toList_ofList, heq, happend, hcons,
      hslash isMark_slash]
    rfl

/-- The file name of a path that ends in a plain name is that name. -/
theorem fileName?_of_endsInName {text name : List Char}
    (h : EndsInName text name) : fileName? text = some name := by
  obtain ⟨hname, hend⟩ := h
  have hpiece : ∀ c ∈ name, (c == '/') = false := fun c hc =>
    beq_eq_false_iff_ne.mpr (ne_of_mem_of_not_mem hc hname.no_slash)
  have hdot : name ≠ ['.'] := fun heq => hname.no_stop (by rw [heq]; rfl)
  have hdots : name ≠ ['.', '.'] := fun heq => hname.no_stop (by rw [heq]; rfl)
  have hlast : ((text.splitOnP (· == '/')).filter
      fun p => p ≠ [] ∧ p ≠ ['.']).getLast? = some name := by
    rcases hend with rfl | ⟨folder, rfl⟩
    · rw [List.splitOnP_eq_singleton hpiece]
      simp [hname.ne_nil, hdot]
    · rw [splitOnP_concat folder (by decide) hpiece, List.filter_append]
      simp [hname.ne_nil, hdot]
  rw [fileName?, hlast]
  simp [hdots]

/-- The extension is what stands after the last full stop, if more than the
stop stands before it. -/
theorem extensionOf?_of_read {name ext : List Char}
    (hread : (name.reverse.takeWhile fun c => !(c == '.')).reverse = ext) :
    extensionOf? name =
      if ext.length + 1 < name.length then some ext else none := by
  subst hread
  rfl

/-- A name with no full stop has no extension. -/
theorem extensionOf?_of_no_stop {name : List Char}
    (h : ∀ c ∈ name, (c == '.') = false) : extensionOf? name = none := by
  rw [extensionOf?_of_read (reverse_takeWhile_reverse_of_none h),
    if_neg (by omega)]

/-- The part after the last full stop is the extension, whatever else the name
holds. -/
theorem extensionOf?_concat {front ext : List Char} (hfront : front ≠ [])
    (h : ∀ c ∈ ext, (c == '.') = false) :
    extensionOf? (front ++ '.' :: ext) = some ext := by
  have hread := @reverse_takeWhile_reverse_concat _ (· == '.') front '.'
    (by decide) ext h
  have hlength := List.length_pos_iff.mpr hfront
  rw [extensionOf?_of_read hread, if_pos]
  rw [List.length_append, List.length_cons]
  omega

/-- The extension of a plain name is what follows its last full stop. -/
theorem extensionOf?_eq_some_iff {name ext : List Char}
    (h : IsPlainName name) :
    extensionOf? name = some ext ↔ '.' ∉ ext ∧ ('.' :: ext) <:+ name := by
  have hfront : ∀ front piece, name = front ++ '.' :: piece → front ≠ [] := by
    rintro front piece heq rfl
    exact h.no_stop (by rw [heq]; rfl)
  constructor
  · intro hext
    rcases exists_lastPiece (· == '.') name with
      hnone | ⟨front, sep, piece, heq, hsep, hpiece⟩
    · rw [extensionOf?_of_no_stop hnone] at hext
      cases hext
    · rw [eq_of_beq hsep] at heq
      rw [heq, extensionOf?_concat (hfront front piece heq) hpiece] at hext
      cases hext
      refine ⟨fun hmem => absurd (hpiece _ hmem) (by decide), ?_⟩
      rw [heq]
      exact List.suffix_append _ _
  · rintro ⟨hstop, front, heq⟩
    rw [← heq]
    exact extensionOf?_concat (hfront front ext heq.symm) fun c hc =>
      beq_eq_false_iff_ne.mpr (ne_of_mem_of_not_mem hc hstop)

/-- An ending without a slash is an ending of the file name.  A longer ending
would reach back to the slash. -/
theorem suffix_iff_of_endsInName {text name ending : List Char}
    (h : EndsInName text name) (hending : '/' ∉ ending) :
    ending <:+ text ↔ ending <:+ name := by
  obtain ⟨-, rfl | ⟨folder, rfl⟩⟩ := h
  · exact Iff.rfl
  · have hname : name <:+ folder ++ '/' :: name :=
      (List.suffix_cons _ _).trans (List.suffix_append _ _)
    refine ⟨fun hsuffix => ?_, fun hsuffix => hsuffix.trans hname⟩
    rcases Nat.lt_or_ge name.length ending.length with hlong | hshort
    · have hslash : '/' :: name <:+ ending :=
        List.suffix_of_suffix_length_le (List.suffix_append _ _) hsuffix hlong
      exact absurd (hslash.subset List.mem_cons_self) hending
    · exact List.suffix_of_suffix_length_le hsuffix hname hshort

namespace Language

/-- Every ending of a language is a full stop and an extension. -/
theorem exists_of_mem_extensions {language : Language} {ending : String}
    (h : ending ∈ language.extensions) :
    ∃ ext, ending.toList = '.' :: ext ∧ '.' ∉ ext ∧ '/' ∉ ending.toList := by
  have htable : ∀ ending ∈ language.extensions,
      ending.toList.head? = some '.' ∧ '.' ∉ ending.toList.tail ∧
        '/' ∉ ending.toList := by
    cases language <;> decide
  obtain ⟨hhead, hstop, hslash⟩ := htable ending h
  obtain ⟨ext, heq⟩ := List.head?_eq_some_iff.mp hhead
  rw [heq] at hstop
  exact ⟨ext, heq, hstop, hslash⟩

/-- Whether the lowered path has an ending is read off its extension. -/
theorem suffix_lower_iff {path : String} {name ext : List Char}
    (hname : EndsInName (Text.lower path).toList name) (hstop : '.' ∉ ext)
    (hslash : '/' ∉ '.' :: ext) :
    ('.' :: ext) <:+ (Text.lower path).toList ↔
      extensionOf? name = some ext := by
  rw [suffix_iff_of_endsInName hname hslash, extensionOf?_eq_some_iff hname.1]
  exact ⟨fun h => ⟨hstop, h⟩, And.right⟩

/-- A language takes a path exactly when it knows the extension of the lowered
name. -/
theorem matchesPath_iff {path : String} {name : List Char}
    (hname : EndsInName (Text.lower path).toList name) (language : Language) :
    language.matchesPath path = true ↔
      ∃ ext, extensionOf? name = some ext ∧
        String.ofList ('.' :: ext) ∈ language.extensions := by
  simp only [matchesPath, List.any_eq_true, List.isSuffixOf_iff_suffix]
  constructor
  · rintro ⟨ending, hmem, hsuffix⟩
    obtain ⟨ext, heq, hstop, hslash⟩ := exists_of_mem_extensions hmem
    rw [heq] at hsuffix hslash
    refine ⟨ext, (suffix_lower_iff hname hstop hslash).mp hsuffix, ?_⟩
    rwa [← heq, String.ofList_toList]
  · rintro ⟨ext, hext, hmem⟩
    obtain ⟨ext', heq, hstop, hslash⟩ := exists_of_mem_extensions hmem
    rw [String.toList_ofList] at heq hslash
    cases heq
    refine ⟨_, hmem, ?_⟩
    rw [String.toList_ofList]
    exact (suffix_lower_iff hname hstop hslash).mpr hext

/-- The language found for a path is the one of the extension of the lowered
name. -/
theorem detect?_eq_some_iff {path : String} {name : List Char}
    (hname : EndsInName (Text.lower path).toList name) (language : Language) :
    detect? path = some language ↔
      ∃ ext, extensionOf? name = some ext ∧
        ofExtension? ext = some language := by
  rw [detect?, fileName?_of_endsInName hname, Option.bind_some,
    Option.bind_eq_some_iff]

/-- The language of an extension has it in its list. -/
theorem mem_extensions_of_ofExtension? {language : Language} {ext : List Char}
    (h : ofExtension? ext = some language) :
    String.ofList ('.' :: ext) ∈ language.extensions := by
  unfold ofExtension? at h
  split at h
  · next hext =>
      cases h
      rw [hext]
      decide
  · split at h
    · next hext =>
        cases h
        rcases hext with rfl | rfl <;> decide
    · split at h
      · next hany =>
          cases h
          obtain ⟨word, hword, heq⟩ := List.any_eq_true.mp hany
          have htable : ∀ word ∈
              ["cpp", "cc", "cxx", "c++", "hpp", "hh", "hxx"],
              String.ofList ('.' :: word.toList) ∈ cpp.extensions := by
            decide
          rw [← of_decide_eq_true heq]
          exact htable word hword
      · cases h

/-- The two tables differ in the headers only. -/
theorem mem_extensions_iff (language : Language) (ext : List Char) :
    String.ofList ('.' :: ext) ∈ language.extensions ↔
      ofExtension? ext = some language ∨ (language = cpp ∧ ext = ['h']) := by
  constructor
  · intro hmem
    have htable : ∀ ending ∈ language.extensions,
        ofExtension? ending.toList.tail = some language ∨
          (language = cpp ∧ ending.toList.tail = ['h']) := by
      cases language <;> decide
    simpa only [String.toList_ofList, List.tail_cons] using htable _ hmem
  · rintro (hof | ⟨rfl, rfl⟩)
    · exact mem_extensions_of_ofExtension? hof
    · decide

/-- A file of a language is selected if the language is detected, or if the file
is a header and the language is C++. -/
theorem matchesPath_iff_detect? {path : String} (h : HasPlainName path)
    (language : Language) :
    language.matchesPath path = true ↔
      detect? path = some language ∨
        (language = cpp ∧ ".h".toList <:+ (Text.lower path).toList) := by
  obtain ⟨_, hpath⟩ := h.endsInName
  obtain ⟨name, hname⟩ := hpath.lower
  have hheader : ".h".toList <:+ (Text.lower path).toList ↔
      extensionOf? name = some ['h'] :=
    suffix_lower_iff hname (by decide) (by decide)
  rw [matchesPath_iff hname, detect?_eq_some_iff hname, hheader]
  constructor
  · rintro ⟨ext, hext, hmem⟩
    rcases (mem_extensions_iff language ext).mp hmem with hof | ⟨rfl, rfl⟩
    · exact Or.inl ⟨ext, hext, hof⟩
    · exact Or.inr ⟨rfl, hext⟩
  · rintro (⟨ext, hext, hof⟩ | ⟨rfl, hext⟩)
    · exact ⟨ext, hext, (mem_extensions_iff language ext).mpr (Or.inl hof)⟩
    · exact ⟨_, hext, (mem_extensions_iff cpp _).mpr (Or.inr ⟨rfl, rfl⟩)⟩

/-- On paths with plain file names, detection and selection agree for Python and
C, and for C++ up to the headers, which are selected besides.  So a language
detected for a project selects one of its files. -/
theorem selection_agrees_with_detection :
    (∀ path, HasPlainName path →
      (python.matchesPath path = true ↔ detect? path = some python) ∧
      (c.matchesPath path = true ↔ detect? path = some c) ∧
      (cpp.matchesPath path = true ↔ detect? path = some cpp ∨
        ".h".toList <:+ (Text.lower path).toList)) ∧
    ∀ paths language, (∀ path ∈ paths, HasPlainName path) →
      detectProject? paths = some language →
        ∃ path ∈ paths, language.matchesPath path = true := by
  constructor
  · intro path h
    refine ⟨?_, ?_, ?_⟩
    · simpa using matchesPath_iff_detect? h python
    · simpa using matchesPath_iff_detect? h c
    · simpa only [true_and] using matchesPath_iff_detect? h cpp
  · intro paths language hplain hproject
    obtain ⟨path, hmem, hdetect⟩ := exists_of_detectProject? hproject
    exact ⟨path, hmem,
      (matchesPath_iff_detect? (hplain path hmem) language).mpr
        (Or.inl hdetect)⟩

instance (path : String) : Decidable (HasPlainName path) :=
  decidable_of_iff
    (((path.toList.splitOn '/').getLast?.any fun name =>
      name ≠ [] ∧ name.head? ≠ some '.') = true)
    (by simp [HasPlainName, Option.any_eq_true])

/-- A folder with a full stop, capitals beyond the Latin ones and several
extensions. -/
theorem selection_agrees_on_capital_endings :
    (∀ path ∈ ["lib.c/ΟΔΟΣ.py.C++", "lib/İ.Tar.H"], HasPlainName path) ∧
    (cpp.matchesPath "lib.c/ΟΔΟΣ.py.C++" = true ↔
      detect? "lib.c/ΟΔΟΣ.py.C++" = some cpp ∨
        ".h".toList <:+ (Text.lower "lib.c/ΟΔΟΣ.py.C++").toList) ∧
    detectProject? ["lib.c/ΟΔΟΣ.py.C++", "lib/İ.Tar.H"] = some cpp ∧
    ∃ path ∈ ["lib.c/ΟΔΟΣ.py.C++", "lib/İ.Tar.H"],
      cpp.matchesPath path = true := by
  have hplain : ∀ path ∈ ["lib.c/ΟΔΟΣ.py.C++", "lib/İ.Tar.H"],
      HasPlainName path := by
    decide +kernel
  have hproject :
      detectProject? ["lib.c/ΟΔΟΣ.py.C++", "lib/İ.Tar.H"] = some cpp := by
    decide +kernel
  exact ⟨hplain, (selection_agrees_with_detection.1 _
      (hplain _ List.mem_cons_self)).2.2, hproject,
    selection_agrees_with_detection.2 _ _ hplain hproject⟩

end Language

end CallGraph
