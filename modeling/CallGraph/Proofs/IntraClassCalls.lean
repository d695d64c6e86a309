import CallGraph.Proofs.CalleeCandidates
import CallGraph.Proofs.Extraction

/-!
# Calls between the methods of a class

In C++ a method can call another one of its class by its bare name or through
`this`.  Such a call is looked up under two names, the bare one and
`Class::method`.  A method is recorded under the scopes in front of its class,
then its class, then its own name (`nameAndClass_eq_join`), where a definition
in the body of the class has no scopes in front.  So the call finds the method
exactly if its declared name has no scope in front of the class
(`ownCall_reaches_iff`): a method that is defined as `Class::method` is found,
one that is defined as `space::Class::method` is not.
-/

namespace CallGraph

/-- What a site may mean is what its callee may mean. -/
theorem CallSyntax.candidates_of_mem_sites {s : CallSyntax} {t : SyntaxTree}
    {resolve : Callee → NameSet} {d : Definition} {site : CallSite}
    (h : site ∈ s.sites t resolve d) :
    site.candidates = resolve site.callee := by
  unfold sites at h
  split at h
  · exact absurd h List.not_mem_nil
  · obtain ⟨call, _, hsite⟩ := List.mem_filterMap.mp h
    obtain ⟨callee, _, rfl⟩ := Option.map_eq_some_iff.mp hsite
    rfl

/-- A call of `member` by its bare name or through `this`. -/
def Callee.IsOwn (callee : Callee) (member : String) : Prop :=
  callee = .name member ∨ callee = .member (some ["this"]) member

/-- Inside a class of C++, such a call may mean the bare name or the member of
the class. -/
theorem Callee.IsOwn.mem_candidates {callee : Callee} {member : String}
    (h : callee.IsOwn member) {cls name : String} :
    name ∈ callee.candidates .cpp {} (some cls) ↔
      name ∈ spelled member ∨ name = cls ++ "::" ++ member := by
  unfold candidates
  rw [NameSet.mem_ofList]
  rcases h with rfl | rfl
  · have hnone : ({} : ImportMap).origin? member = none := rfl
    simp [candidateNames, inClass, hnone]
  · simp [candidateNames, throughReceiver, isSelf, inClass]

/-- The last two items of a list, set apart. -/
theorem take_append_last_two {α : Type} {xs : List α} {a b : α}
    (ha : xs[xs.length - 2]? = some a) (hb : xs.getLast? = some b)
    (h : 1 < xs.length) : xs = xs.take (xs.length - 2) ++ [a, b] := by
  rw [List.getLast?_eq_getElem?] at hb
  obtain ⟨hafter, hlast⟩ := List.getElem?_eq_some_iff.mp hb
  obtain ⟨hbefore, hnext⟩ := List.getElem?_eq_some_iff.mp ha
  have hindex : xs.length - 2 + 1 = xs.length - 1 := by omega
  have hend : xs.length - 1 + 1 = xs.length := by omega
  have hdrop : xs.drop (xs.length - 2) = [a, b] := by
    rw [List.drop_eq_getElem_cons hbefore, hindex,
      List.drop_eq_getElem_cons hafter, hend, List.drop_length, hnext, hlast]
  rw [← hdrop, List.take_append_drop]

namespace CSource

/-- **Names of methods.**  The name of a method of C++ is made of the scopes in
front of its class, its class and its last segment. -/
theorem nameAndClass_eq_join {t : SyntaxTree} {i : Nat}
    {segments : List String} {name cls member : String}
    (h : (name, some cls) = nameAndClass t .cpp i segments)
    (hmember : segments.getLast? = some member) :
    name = Text.joinColons
      (segments.take (segments.length - 2) ++ [cls, member]) := by
  unfold nameAndClass at h
  split at h
  · rename_i hlong
    obtain ⟨rfl, hcls⟩ := Prod.mk.inj h
    rw [← take_append_last_two hcls.symm hmember hlong]
  · rename_i hshort
    obtain rfl : segments = [member] := by
      cases segments with
      | nil => simp at hmember
      | cons first rest =>
          cases rest with
          | nil => simpa using hmember
          | cons second rest => simp at hshort
    dsimp only at h
    rw [if_pos rfl] at h
    cases hcls : enclosingClass? t i with
    | none =>
        rw [hcls] at h
        exact absurd (Prod.mk.inj h).2 (by simp)
    | some owner =>
        rw [hcls] at h
        obtain ⟨rfl, howner⟩ := Prod.mk.inj h
        obtain rfl := Option.some.inj howner
        simp [Text.joinColons]

end CSource

/-- Scopes in front make a name longer than that of the class and its
member. -/
theorem Text.length_lt_joinColons {outer : List String} (h : outer ≠ [])
    (cls member : String) :
    (cls ++ "::" ++ member).length <
      (joinColons (outer ++ [cls, member])).length := by
  have hjoin : joinColons (outer ++ [cls, member]) =
      joinColons outer ++ "::" ++ (cls ++ "::" ++ member) := by
    rw [joinColons_append h (List.cons_ne_nil _ _)]
    simp [joinColons]
  have htwo : "::".length = 2 := rfl
  simp only [hjoin, String.length_append]
  omega

/-- A call from one method to another of the same class of a C++ file: the body
of `caller` has the call `site`, which gives the last segment of the declared
name of `callee` by itself or through `this`. -/
structure OwnCall (t : SyntaxTree) (path : String) (includePrivate : Bool)
    (caller callee : Definition) (segments : List String) (site : CallSite) :
    Prop where
  caller_defined : caller ∈ Language.cpp.definitions t path includePrivate
  callee_defined : callee ∈ Language.cpp.definitions t path includePrivate
  same_class : ∃ cls, caller.info.className = some cls ∧
    callee.info.className = some cls
  declared : Declarator.declaredName? t callee.node = some segments
  in_body : site ∈ Language.cpp.callSites t caller
  names_callee : ∃ member, segments.getLast? = some member ∧
    site.callee.IsOwn member

namespace OwnCall

variable {t : SyntaxTree} {path : String} {includePrivate : Bool}
  {caller callee : Definition} {segments : List String} {site : CallSite}

/-- The name of the method that is called, and what the call may mean. -/
theorem exists_names
    (h : OwnCall t path includePrivate caller callee segments site) :
    ∃ cls member,
      callee.info.name = Text.joinColons
          (segments.take (segments.length - 2) ++ [cls, member]) ∧
        ∀ name, name ∈ site.candidates ↔
          name ∈ Callee.spelled member ∨ name = cls ++ "::" ++ member := by
  obtain ⟨cls, hcaller, hcallee⟩ := h.same_class
  obtain ⟨member, hmember, hown⟩ := h.names_callee
  refine ⟨cls, member, ?_, ?_⟩
  · obtain ⟨i, _, hread⟩ := List.mem_filterMap.mp h.callee_defined
    obtain ⟨rfl, _, found, hfound, hname⟩ := CSource.definitionAt?_some hread
    obtain rfl : found = segments :=
      Option.some.inj (hfound.symm.trans h.declared)
    rw [hcallee] at hname
    exact CSource.nameAndClass_eq_join hname hmember
  · intro name
    rw [CallSyntax.candidates_of_mem_sites h.in_body, hcaller]
    exact hown.mem_candidates

/-- The call may mean the method exactly if no scope stands in front of its
class. -/
theorem mem_candidates_iff
    (h : OwnCall t path includePrivate caller callee segments site) :
    callee.info.name ∈ site.candidates ↔ segments.length ≤ 2 := by
  obtain ⟨cls, member, hname, hcandidates⟩ := h.exists_names
  rw [hcandidates, hname]
  constructor
  · intro hmeant
    by_contra hlong
    have houter : segments.take (segments.length - 2) ≠ [] := by
      rw [ne_eq, List.take_eq_nil_iff, ← List.length_eq_zero_iff]
      omega
    have hlt := Text.length_lt_joinColons houter cls member
    rcases hmeant with hbare | hjoined
    · rw [(Callee.mem_spelled.mp hbare).1] at hlt
      simp only [String.length_append] at hlt
      omega
    · rw [hjoined] at hlt
      exact Nat.lt_irrefl _ hlt
  · intro hshort
    right
    have hnone : segments.length - 2 = 0 := by omega
    rw [hnone, List.take_zero, List.nil_append]
    simp [Text.joinColons]

end OwnCall

/-- **Calls inside a class.**  A call from one method of a class to another, by
bare name or through `this`, finds the other method exactly if no scope stands
in front of the class in its declared name; then the calls listed for the
caller contain it. -/
theorem ownCall_reaches_iff (t : SyntaxTree) (path : String)
    (includePrivate : Bool) (caller callee : Definition)
    (segments : List String) (site : CallSite)
    (h : OwnCall t path includePrivate caller callee segments site) :
    (callee.info.name ∈ site.candidates ↔ segments.length ≤ 2) ∧
      (segments.length ≤ 2 →
        callee.info.name ∈
          (reportOfTree .cpp path includePrivate t).calls.targetsOf
            caller.info.name) := by
  refine ⟨h.mem_candidates_iff, ?_⟩
  intro hshort
  have htargets : (reportOfTree .cpp path includePrivate t).calls.targetsOf
      caller.info.name = Language.cpp.calledFrom t
        (Language.cpp.definitions t path includePrivate) caller.info.name :=
    targetsOf_fileCalls caller.info.name
  rw [htargets, Language.mem_calledFrom]
  exact ⟨caller, h.caller_defined, rfl, site, h.in_body,
    h.mem_candidates_iff.mpr hshort⟩

/-- The tree, down to what is read of it, of two methods of a class `C` that
are defined under a scope such as `A::`; the second calls the first. -/
def methodsTree (scope : String) : SyntaxTree where
  source := "void " ++ scope ++ "C::m() {}\nvoid " ++ scope ++
    "C::n() { m(); }\n"
  nodes :=
    let name := scope.length + 4
    let next := scope.length + 20
    #[⟨0, "translation_unit", none, true, false, 0, next + name + 12, 1⟩,
      ⟨1, "function_definition", none, true, false, 0, name + 10, 1⟩,
      ⟨2, "primitive_type", some "type", true, false, 0, 4, 1⟩,
      ⟨2, "function_declarator", some "declarator", true, false, 5, name + 7,
        1⟩,
      ⟨3, "qualified_identifier", some "declarator", true, false, 5, name + 5,
        1⟩,
      ⟨2, "compound_statement", some "body", true, false, name + 8, name + 10,
        1⟩,
      ⟨1, "function_definition", none, true, false, next - 5, next + name + 11,
        2⟩,
      ⟨2, "primitive_type", some "type", true, false, next - 5, next - 1, 2⟩,
      ⟨2, "function_declarator", some "declarator", true, false, next,
        next + name + 2, 2⟩,
      ⟨3, "qualified_identifier", some "declarator", true, false, next,
        next + name, 2⟩,
      ⟨2, "compound_statement", some "body", true, false, next + name + 3,
        next + name + 11, 2⟩,
      ⟨3, "call_expression", none, true, false, next + name + 5,
        next + name + 8, 2⟩,
      ⟨4, "identifier", some "function", true, false, next + name + 5,
        next + name + 6, 2⟩]
  preorder := by rfl

/-- One of these methods. -/
def methodDefinition (scope short : String) (line node : Nat) : Definition :=
  { info := {
      name := scope ++ "C::" ++ short
      filePath := "a.cpp"
      line
      returnType := some "void"
      flags := { isMethod := true }
      className := some "C" }
    node }

/-- The call in the second of them. -/
def methodCall (scope : String) : CallSite :=
  { caller := scope ++ "C::n"
    raw := "m"
    line := 2
    callee := .name "m"
    candidates := NameSet.ofList ["m", "C::m"] }

theorem methodsTree_ownCall : ∀ scope ∈ ["", "A::"],
    OwnCall (methodsTree scope) "a.cpp" false
      (methodDefinition scope "n" 2 6) (methodDefinition scope "m" 1 1)
      (QualifiedName.segments (scope ++ "C::m")) (methodCall scope) := by
  intro scope hscope
  constructor
  case caller_defined =>
    revert scope
    decide +kernel
  case callee_defined =>
    revert scope
    decide +kernel
  case same_class => exact ⟨"C", rfl, rfl⟩
  case declared =>
    revert scope
    decide +kernel
  case in_body =>
    revert scope
    decide +kernel
  case names_callee =>
    refine ⟨"m", ?_, Or.inl rfl⟩
    revert scope
    decide +kernel

/-- Without a scope the first method is found. -/
theorem ownCall_reaches_unscoped :
    OwnCall (methodsTree "") "a.cpp" false
        (methodDefinition "" "n" 2 6) (methodDefinition "" "m" 1 1)
        (QualifiedName.segments "C::m") (methodCall "") ∧
      (methodDefinition "" "m" 1 1).info.name ∈
        (reportOfTree .cpp "a.cpp" false (methodsTree "")).calls.targetsOf
          (methodDefinition "" "n" 2 6).info.name := by
  have hcall := methodsTree_ownCall "" (by decide)
  refine ⟨hcall, ?_⟩
  exact (ownCall_reaches_iff _ _ _ _ _ _ _ hcall).2 (by decide +kernel)

/-- **A scope hides a method.**  Under a scope the first method is not among
the calls listed for the second, although they belong to one class. -/
theorem ownCall_misses_scoped :
    OwnCall (methodsTree "A::") "a.cpp" false
        (methodDefinition "A::" "n" 2 6) (methodDefinition "A::" "m" 1 1)
        (QualifiedName.segments "A::C::m") (methodCall "A::") ∧
      (methodDefinition "A::" "m" 1 1).info.name ∉
        (reportOfTree .cpp "a.cpp" false (methodsTree "A::")).calls.targetsOf
          (methodDefinition "A::" "n" 2 6).info.name := by
  refine ⟨methodsTree_ownCall "A::" (by decide), ?_⟩
  decide +kernel

end CallGraph
