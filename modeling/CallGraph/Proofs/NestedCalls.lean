import CallGraph.Proofs.Extraction
import CallGraph.Proofs.TreeLinks

/-!
# Calls of nested functions

A function can be defined in the body of another one, at any depth: in a block,
in a class, or in a function in between.  What the inner function calls, the
outer one calls too, and the calls of the inner function stand together among
those of the outer one (`callSites_nested`).

Both lists of calls come from walks of their own, one over the body of each
function.  The nodes below a node have consecutive numbers, so what is walked
for the inner function is a block of what is walked for the outer one
(`descendants_infix`), and picking out the calls keeps blocks.  Only C++ looks
at the class around a call, so in the other languages a call may mean the same
for both functions.
-/

namespace CallGraph

namespace SyntaxTree

variable {t : SyntaxTree}

/-- **Blocks.**  What is below a node is a block of what is below any node that
it lies below.  The last node of the lower listing is one of the upper listing,
so it ends no later. -/
theorem descendants_infix {i j : Nat} (h : j ∈ t.descendants i) :
    t.descendants j <:+: t.descendants i := by
  have hbounds := t.mem_descendants h
  obtain ⟨k, hk⟩ := t.descendants_eq_range' (i := i) (by omega)
  obtain ⟨m, hm⟩ := t.descendants_eq_range' (i := j) hbounds.2
  have hend : j + m ≤ i + k := by
    cases m with
    | zero =>
        rw [hk, List.mem_range'_1] at h
        omega
    | succ m =>
        have hlast : j + m ∈ t.descendants j := by
          rw [hm, List.mem_range'_1]
          omega
        have hmem := mem_descendants_trans h hlast
        rw [hk, List.mem_range'_1] at hmem
        omega
  obtain ⟨before, rfl⟩ := Nat.exists_eq_add_of_le hbounds.1
  obtain ⟨after, rfl⟩ : ∃ after, k = before + m + after :=
    ⟨k - (before + m), by omega⟩
  refine ⟨List.range' i before, List.range' (i + (before + m)) after, ?_⟩
  rw [hk, hm, List.range'_append_1, List.range'_append_1]

end SyntaxTree

/-- The first definition stands in the body of the second. -/
def Definition.IsWithin (t : SyntaxTree) (inner outer : Definition) : Prop :=
  ∃ body, t.childByField? outer.node "body" = some body ∧
    inner.node ∈ t.descendants body

/-- What a call says by itself, whoever makes it. -/
def CallSite.written (site : CallSite) : String × Nat × Callee :=
  (site.raw, site.line, site.callee)

/-- Whatever is the same of each call for both functions, the inner function's
calls are a block of the outer function's calls in it. -/
theorem CallSyntax.sites_infix {α : Type} {s : CallSyntax} {t : SyntaxTree}
    {inner outer : Definition} {resolve resolve' : Callee → NameSet}
    (view : CallSite → α)
    (hsame : ∀ call,
      (s.siteAt? t inner.info.name resolve call).map view =
        (s.siteAt? t outer.info.name resolve' call).map view)
    (h : inner.IsWithin t outer) :
    (s.sites t resolve inner).map view <:+:
      (s.sites t resolve' outer).map view := by
  obtain ⟨body, hbody, hnode⟩ := h
  unfold sites
  rw [hbody]
  cases hinner : t.childByField? inner.node "body" with
  | none => exact List.nil_infix
  | some body' =>
      have hbody' : body' ∈ t.descendants inner.node :=
        SyntaxTree.mem_descendants_of_mem_children
          (t.mem_children_of_childByField? hinner)
      have hblock : t.descendants body' <:+: t.descendants body :=
        SyntaxTree.descendants_infix
          (SyntaxTree.mem_descendants_trans hnode hbody')
      simp only [List.map_filterMap, hsame]
      exact (hblock.filter _).filterMap _

/-- Only C++ looks at the class around a call. -/
theorem Callee.candidates_of_ne_cpp {language : Language}
    (h : language ≠ .cpp) (imports : ImportMap) (callee : Callee)
    (enclosing enclosing' : Option String) :
    callee.candidates language imports enclosing =
      callee.candidates language imports enclosing' := by
  have hnone : ∀ (cls : Option String) (name : String),
      inClass language cls name = [] :=
    fun cls name => if_neg h
  unfold candidates
  congr 1
  cases callee with
  | member receiver member =>
      simp only [candidateNames]
      congr 1
      unfold throughReceiver
      simp only [hnone]
  | name name => simp only [candidateNames, hnone]
  | qualified segments => rfl
  | subscript name => rfl
  | unsupported => rfl

section Nested

variable {language : Language} {t : SyntaxTree} {inner outer : Definition}

/-- The calls written in an inner function are a run of those in the outer one.
-/
theorem Language.written_infix (h : inner.IsWithin t outer) :
    (language.callSites t inner).map CallSite.written <:+:
      (language.callSites t outer).map CallSite.written := by
  refine CallSyntax.sites_infix CallSite.written (fun call => ?_) h
  unfold CallSyntax.siteAt?
  rw [Option.map_map, Option.map_map]
  rfl

/-- Outside C++ the same holds of the calls with their candidates, which do not
depend on the class around them. -/
theorem Language.candidates_infix (hlanguage : language ≠ .cpp)
    (h : inner.IsWithin t outer) :
    ((language.callSites t inner).map fun site =>
        (site.written, site.candidates)) <:+:
      (language.callSites t outer).map fun site =>
        (site.written, site.candidates) := by
  refine CallSyntax.sites_infix
    (fun site => (site.written, site.candidates)) (fun call => ?_) h
  unfold CallSyntax.siteAt?
  rw [Option.map_map, Option.map_map]
  congr 1
  funext callee
  exact congrArg (Prod.mk _)
    (Callee.candidates_of_ne_cpp hlanguage _ _ _ _)

end Nested

/-- **Nested functions.**  The calls of a function that is defined in the body
of another one are a block of the calls of that one.  Outside C++ they may also
mean the same, and all that the inner function may call is listed for the
outer one. -/
theorem callSites_nested (language : Language) (t : SyntaxTree) (path : String)
    (includePrivate : Bool) (inner outer : Definition)
    (houter : outer ∈ language.definitions t path includePrivate)
    (hwithin : inner.IsWithin t outer) :
    (language.callSites t inner).map CallSite.written <:+:
        (language.callSites t outer).map CallSite.written ∧
      (language ≠ .cpp →
        ((language.callSites t inner).map fun site =>
            (site.written, site.candidates)) <:+:
          ((language.callSites t outer).map fun site =>
            (site.written, site.candidates)) ∧
        ∀ site ∈ language.callSites t inner, ∀ target ∈ site.candidates,
          target ∈ (reportOfTree language path includePrivate t).calls.targetsOf
            outer.info.name) := by
  refine ⟨Language.written_infix hwithin, fun hlanguage => ?_⟩
  have hblock := Language.candidates_infix hlanguage hwithin
  refine ⟨hblock, fun site hsite target htarget => ?_⟩
  obtain ⟨site', hsite', hsame⟩ :=
    List.mem_map.mp (hblock.subset (List.mem_map_of_mem hsite))
  have hcandidates : site'.candidates = site.candidates :=
    congrArg Prod.snd hsame
  have htargets : (reportOfTree language path includePrivate t).calls.targetsOf
      outer.info.name = language.calledFrom t
        (language.definitions t path includePrivate) outer.info.name :=
    targetsOf_fileCalls outer.info.name
  rw [htargets, Language.mem_calledFrom]
  exact ⟨outer, houter, rfl, site', hsite', hcandidates ▸ htarget⟩

/-- The tree of a text in which `f` defines `g` and calls it. -/
def nestedTree : SyntaxTree where
  source := "def f():\n    def g(): h()\n    g()\n"
  nodes :=
    let before : List Node := [
      ⟨0, "module", none, true, false, 0, 34, 1⟩,
      ⟨1, "function_definition", none, true, false, 0, 33, 1⟩,
      ⟨2, "identifier", some "name", true, false, 4, 5, 1⟩,
      ⟨2, "parameters", some "parameters", true, false, 5, 7, 1⟩,
      ⟨2, "block", some "body", true, false, 13, 33, 2⟩]
    let after : List Node := [
      ⟨3, "expression_statement", none, true, false, 30, 33, 3⟩,
      ⟨4, "call", none, true, false, 30, 33, 3⟩,
      ⟨5, "identifier", some "function", true, false, 30, 31, 3⟩]
    (before ++ deepen 2 (oneLineNodes 2 13) ++ after).toArray
  preorder := by decide

/-- One of its functions. -/
def nestedDefinition (name : String) (line node : Nat) : Definition :=
  { info := { name, filePath := "a.py", line }, node }

/-- The call in `g` is a block of the two calls in `f`, and `f` calls what `g`
calls. -/
theorem callSites_nested_block :
    nestedDefinition "f" 1 1 ∈
        Language.python.definitions nestedTree "a.py" false ∧
      (nestedDefinition "g" 2 5).IsWithin nestedTree
        (nestedDefinition "f" 1 1) ∧
      [("h", 2, Callee.name "h")] <:+:
        (Language.python.callSites nestedTree
          (nestedDefinition "f" 1 1)).map CallSite.written ∧
      "h" ∈ (reportOfTree .python "a.py" false nestedTree).calls.targetsOf
        "f" := by
  have houter : nestedDefinition "f" 1 1 ∈
      Language.python.definitions nestedTree "a.py" false := by
    decide +kernel
  have hwithin : (nestedDefinition "g" 2 5).IsWithin nestedTree
      (nestedDefinition "f" 1 1) :=
    ⟨4, by decide +kernel, by decide +kernel⟩
  have hinner : (Language.python.callSites nestedTree
      (nestedDefinition "g" 2 5)) =
        [⟨"g", "h", 2, .name "h", NameSet.ofList ["h"]⟩] := by
    decide +kernel
  obtain ⟨hblock, hcalls⟩ := callSites_nested .python nestedTree "a.py" false
    (nestedDefinition "g" 2 5) (nestedDefinition "f" 1 1) houter hwithin
  rw [hinner] at hblock hcalls
  refine ⟨houter, hwithin, hblock, ?_⟩
  exact (hcalls (by decide)).2 _ (List.mem_singleton.mpr rfl) "h"
    (by decide +kernel)

end CallGraph
