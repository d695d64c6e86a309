import CallGraph.Extract.Declarator
import CallGraph.Proofs.TreeLinks

/-!
# Chains of declarators

The declarator of a function is wrapped in pointers, references, parentheses and
attributes, in any order.  A walk goes from declarator to inner declarator until
it comes to a function, and collects the marks of what it passes.

An inner declarator is a child, and children come later in the listing, so the
walk ends: it takes at most one round for each node that is left
(`Walk.answer?_eq`), and its answer is the one that the recursion gives.  The
nodes it passes are a chain of wrappers (`Wraps`), and the answer is exactly the
end of this chain with the marks along it (`functionDeclarator?_eq_some_iff`).
Since a wrapper is no function, no function comes earlier on the chain
(`Wraps.prefix_of_chain`).
-/

namespace CallGraph

namespace Declarator

/-- The kinds of declarators that wrap another one. -/
def wrapperKinds : List String :=
  ["pointer_declarator", "reference_declarator", "parenthesized_declarator",
    "attributed_declarator"]

/-- A declarator that wraps another one. -/
def IsWrapper (t : SyntaxTree) (i : Nat) : Prop := t.kind i ∈ wrapperKinds

instance (t : SyntaxTree) (i : Nat) : Decidable (IsWrapper t i) :=
  inferInstanceAs (Decidable (t.kind i ∈ wrapperKinds))

/-- What a wrapper adds to the return type: a star for a pointer, one or two
ampersands for a reference. -/
def mark (t : SyntaxTree) (i : Nat) : String :=
  if t.kind i = "pointer_declarator" then "*"
  else if t.kind i = "reference_declarator" then
    if ∃ c ∈ t.children i, t.kind c = "&&" then "&&" else "&"
  else ""

/-- Going on from a declarator to the inner one passes the listed nodes, the
outermost first, and comes to the last node. -/
inductive Chain (t : SyntaxTree) : Nat → List Nat → Nat → Prop
  | here (d : Nat) : Chain t d [] d
  | inner {c j f : Nat} {passed : List Nat} (hinner : inner? t c = some j)
      (tail : Chain t j passed f) : Chain t c (c :: passed) f

/-- A chain of wrappers around the declarator of a function. -/
structure Wraps (t : SyntaxTree) (d : Nat) (passed : List Nat) (f : Nat) :
    Prop where
  chain : Chain t d passed f
  function : t.kind f = "function_declarator"
  wrappers : ∀ c ∈ passed, IsWrapper t c

variable {t : SyntaxTree}

/-- A wrapping declarator is not the declarator of a function. -/
theorem IsWrapper.not_function {i : Nat} (h : IsWrapper t i) :
    t.kind i ≠ "function_declarator" := by
  intro hkind
  unfold IsWrapper at h
  rw [hkind] at h
  exact absurd h (by decide)

/-- Exactly the wrappers have a mark. -/
theorem mark?_eq_some_iff {i : Nat} {m : String} :
    mark? t i = some m ↔ IsWrapper t i ∧ m = mark t i := by
  unfold mark? mark IsWrapper wrapperKinds
  by_cases hpointer : t.kind i = "pointer_declarator"
  · simp [hpointer, eq_comm (b := m)]
  · by_cases hreference : t.kind i = "reference_declarator"
    · simp [hreference, eq_comm (b := m)]
    · by_cases hplain : t.kind i = "parenthesized_declarator" ∨
          t.kind i = "attributed_declarator"
      · simp [hpointer, hreference, hplain, eq_comm (b := m)]
      · simp [hpointer, hreference, hplain]

/-- The way down ends at a declarator of a function, with nothing added to the
return type. -/
theorem functionDeclarator?_of_function {d : Nat}
    (h : t.kind d = "function_declarator") :
    functionDeclarator? t d = some (d, "") := by
  rw [functionDeclarator?, if_pos h]

/-- The way down goes through a wrapper, whose mark stands in front of the
marks below it. -/
theorem functionDeclarator?_of_wrapper {d j : Nat} (h : IsWrapper t d)
    (hinner : inner? t d = some j) :
    functionDeclarator? t d =
      (functionDeclarator? t j).map fun (f, suffix) =>
        (f, mark t d ++ suffix) := by
  have hmark := mark?_eq_some_iff.mpr ⟨h, rfl⟩
  rw [functionDeclarator?, if_neg h.not_function, hmark]
  dsimp only
  split
  · rename_i hnone
    rw [hinner] at hnone
    cases hnone
  · rename_i j' hsome
    obtain rfl : j = j' := Option.some.inj (hinner.symm.trans hsome)
    rfl

/-- An answer comes from a chain of wrappers. -/
theorem exists_wraps {d f : Nat} {suffix : String}
    (h : functionDeclarator? t d = some (f, suffix)) :
    ∃ passed, Wraps t d passed f ∧
      suffix = String.join (passed.map (mark t)) := by
  fun_induction functionDeclarator? t d generalizing f suffix with
  | case1 d hfunction =>
      cases h
      exact ⟨[], ⟨.here d, hfunction, by simp⟩, rfl⟩
  | case2 d hfunction hmark => cases h
  | case3 d hfunction m hmark hinner => cases h
  | case4 d hfunction m hmark j hinner ih =>
      obtain ⟨⟨f', rest⟩, hrest, heq⟩ := Option.map_eq_some_iff.mp h
      cases heq
      obtain ⟨passed, hwraps, rfl⟩ := ih hrest
      obtain ⟨hwrapper, rfl⟩ := mark?_eq_some_iff.mp hmark
      refine ⟨d :: passed, ⟨.inner hinner hwraps.chain, hwraps.function, ?_⟩, ?_⟩
      · intro c hc
        rcases List.mem_cons.mp hc with rfl | hc
        · exact hwrapper
        · exact hwraps.wrappers c hc
      · rw [List.map_cons, String.join_cons]

/-- A chain of wrappers gives an answer. -/
theorem Wraps.functionDeclarator?_eq {d f : Nat} {passed : List Nat}
    (h : Wraps t d passed f) :
    functionDeclarator? t d =
      some (f, String.join (passed.map (mark t))) := by
  obtain ⟨hchain, hfunction, hwrappers⟩ := h
  induction hchain with
  | here d => exact functionDeclarator?_of_function hfunction
  | @inner c j f passed hinner tail ih =>
      have hrest := ih hfunction fun c hc =>
        hwrappers c (List.mem_cons_of_mem _ hc)
      rw [functionDeclarator?_of_wrapper
        (hwrappers c List.mem_cons_self) hinner, hrest, List.map_cons,
        String.join_cons]
      rfl

/-- **Answers** are the ends of chains of wrappers, with the marks along
them. -/
theorem functionDeclarator?_eq_some_iff {d f : Nat} {suffix : String} :
    functionDeclarator? t d = some (f, suffix) ↔
      ∃ passed, Wraps t d passed f ∧
        suffix = String.join (passed.map (mark t)) := by
  constructor
  · exact exists_wraps
  · intro h
    obtain ⟨passed, hwraps, rfl⟩ := h
    exact hwraps.functionDeclarator?_eq

/-- A node that is no function and wraps nothing gives no answer. -/
theorem functionDeclarator?_eq_none {d : Nat}
    (hfunction : t.kind d ≠ "function_declarator")
    (hinner : ∀ j, inner? t d = some j → ¬ IsWrapper t d) :
    functionDeclarator? t d = none := by
  cases hanswer : functionDeclarator? t d with
  | none => rfl
  | some answer =>
      obtain ⟨passed, ⟨hchain, hend, hwrappers⟩, _⟩ := exists_wraps hanswer
      cases hchain with
      | here => exact absurd hend hfunction
      | @inner _ j _ _ hnext _ =>
          exact absurd (hwrappers d List.mem_cons_self) (hinner j hnext)

/-- A chain goes down the tree. -/
theorem Chain.mem_descendants {d f : Nat} {passed : List Nat}
    (h : Chain t d passed f) (hsize : f < t.size) : f ∈ t.descendants d := by
  induction h with
  | here d => exact SyntaxTree.mem_descendants_self hsize
  | inner hinner tail ih =>
      exact SyntaxTree.mem_descendants_trans
        (SyntaxTree.mem_descendants_of_mem_children
          (mem_children_of_inner? t hinner)) (ih hsize)

/-- **The first function.**  Whatever function the chain comes to, it has passed
the wrappers before. -/
theorem Wraps.prefix_of_chain {d f f' : Nat} {passed passed' : List Nat}
    (h : Wraps t d passed f) (hchain : Chain t d passed' f')
    (hfunction : t.kind f' = "function_declarator") : passed <+: passed' := by
  obtain ⟨hwrapped, hend, hwrappers⟩ := h
  induction hwrapped generalizing passed' with
  | here d => exact List.nil_prefix
  | @inner c j f passed hinner tail ih =>
      cases hchain with
      | here =>
          exact absurd hfunction
            (hwrappers _ List.mem_cons_self).not_function
      | @inner _ j' _ passed' hinner' tail' =>
          obtain rfl : j = j' := Option.some.inj (hinner.symm.trans hinner')
          have hrest : passed <+: passed' := ih tail' hend fun c hc =>
            hwrappers c (List.mem_cons_of_mem _ hc)
          exact (List.prefix_cons_inj c).mpr hrest

/-- How far the walk has come, and what it has collected. -/
structure Walk where
  current : Nat
  suffix : String

namespace Walk

/-- One round of the walk: it goes on to the inner declarator, or ends with an
answer. -/
def round (t : SyntaxTree) (w : Walk) : Walk ⊕ Option (Nat × String) :=
  if t.kind w.current = "function_declarator" then
    .inr (some (w.current, w.suffix))
  else
    match mark? t w.current, inner? t w.current with
    | some m, some j => .inl ⟨j, w.suffix ++ m⟩
    | _, _ => .inr none

/-- The answer of the walk, if it ends within so many rounds. -/
def answer? (t : SyntaxTree) : Nat → Walk → Option (Option (Nat × String))
  | 0, _ => none
  | rounds + 1, w =>
    match w.round t with
    | .inl next => answer? t rounds next
    | .inr answer => some answer

/-- What is still to come of the answer, behind what the walk has collected. -/
def outcome (t : SyntaxTree) (w : Walk) : Option (Nat × String) :=
  (functionDeclarator? t w.current).map fun (f, suffix) =>
    (f, w.suffix ++ suffix)

/-- **One round** goes on to the inner declarator of a wrapper and collects its
mark, or it ends with the answer. -/
theorem round_cases (t : SyntaxTree) (w : Walk) :
    (∃ j, IsWrapper t w.current ∧ inner? t w.current = some j ∧
        w.round t = .inl ⟨j, w.suffix ++ mark t w.current⟩) ∨
      w.round t = .inr (w.outcome t) := by
  unfold round outcome
  by_cases hfunction : t.kind w.current = "function_declarator"
  · right
    rw [if_pos hfunction, functionDeclarator?_of_function hfunction]
    simp
  · rw [if_neg hfunction]
    cases hmark : mark? t w.current with
    | none =>
        right
        have hwrapper : ¬ IsWrapper t w.current := by
          intro hwrapper
          rw [mark?_eq_some_iff.mpr ⟨hwrapper, rfl⟩] at hmark
          cases hmark
        rw [functionDeclarator?_eq_none hfunction fun _ _ => hwrapper]
        rfl
    | some m =>
        obtain ⟨hwrapper, rfl⟩ := mark?_eq_some_iff.mp hmark
        cases hinner : inner? t w.current with
        | none =>
            right
            have hnext : ∀ j, inner? t w.current = some j →
                ¬ IsWrapper t w.current := by
              intro j hj
              rw [hinner] at hj
              cases hj
            rw [functionDeclarator?_eq_none hfunction hnext]
            rfl
        | some j => exact Or.inl ⟨j, hwrapper, rfl, rfl⟩

/-- Going on to the inner declarator leaves the answer as it is. -/
theorem outcome_inner {w : Walk} {j : Nat} (hwrapper : IsWrapper t w.current)
    (hinner : inner? t w.current = some j) :
    outcome t ⟨j, w.suffix ++ mark t w.current⟩ = w.outcome t := by
  unfold outcome
  rw [functionDeclarator?_of_wrapper hwrapper hinner, Option.map_map]
  simp only [Function.comp_def, String.append_assoc]

/-- At the start nothing is collected. -/
theorem outcome_start (t : SyntaxTree) (d : Nat) :
    outcome t ⟨d, ""⟩ = functionDeclarator? t d := by
  unfold outcome
  simp

/-- **The walk ends**, after no more rounds than there are nodes left, with the
answer. -/
theorem answer?_eq {rounds : Nat} {w : Walk}
    (h : t.size - w.current < rounds) :
    w.answer? t rounds = some (w.outcome t) := by
  induction rounds generalizing w with
  | zero => exact absurd h (Nat.not_lt_zero _)
  | succ rounds ih =>
      unfold answer?
      rcases round_cases t w with ⟨j, hwrapper, hinner, hround⟩ | hround
      · have hfewer := remaining_lt_of_inner? t hinner
        have hnext : t.size - j < rounds := by omega
        rw [hround, ← outcome_inner hwrapper hinner]
        exact ih hnext
      · rw [hround]

end Walk

/-- **Descent.**  The walk from a declarator ends.  It answers with a function
and a suffix exactly if a chain of wrappers leads from the declarator to the
function and the suffix is made of their marks, outermost first.  This function
lies below the declarator and is the first one on the chain.  Without such a
chain there is no answer. -/
theorem functionDeclarator?_descends (t : SyntaxTree) (d : Nat) :
    (∀ rounds, t.size - d < rounds →
        (Walk.mk d "").answer? t rounds = some (functionDeclarator? t d)) ∧
      (∀ f suffix, functionDeclarator? t d = some (f, suffix) ↔
        ∃ passed, Wraps t d passed f ∧
          suffix = String.join (passed.map (mark t))) ∧
      (∀ passed f, Wraps t d passed f →
        f ∈ t.descendants d ∧
          ∀ passed' f', Chain t d passed' f' →
            t.kind f' = "function_declarator" → passed <+: passed') ∧
      ((∀ passed f, ¬ Wraps t d passed f) →
        functionDeclarator? t d = none) := by
  refine ⟨?_, fun f suffix => functionDeclarator?_eq_some_iff, ?_, ?_⟩
  · intro rounds hrounds
    rw [← Walk.outcome_start]
    exact Walk.answer?_eq hrounds
  · intro passed f hwraps
    have hsize : f < t.size :=
      SyntaxTree.lt_size_of_kind (by decide) hwraps.function
    exact ⟨hwraps.chain.mem_descendants hsize,
      fun passed' f' => hwraps.prefix_of_chain⟩
  · intro hnone
    rw [Option.eq_none_iff_forall_ne_some]
    intro answer hanswer
    obtain ⟨passed, hwraps, _⟩ := exists_wraps hanswer
    exact hnone passed answer.1 hwraps

/-- The tree of a function that returns a reference to a pointer.  The reference
names none of its children as its declarator. -/
def referenceTree : SyntaxTree where
  source := "int *&&f() {}"
  nodes := #[
    ⟨0, "translation_unit", none, true, false, 0, 13, 1⟩,
    ⟨1, "function_definition", none, true, false, 0, 13, 1⟩,
    ⟨2, "primitive_type", some "type", true, false, 0, 3, 1⟩,
    ⟨2, "pointer_declarator", some "declarator", true, false, 4, 10, 1⟩,
    ⟨3, "*", none, false, false, 4, 5, 1⟩,
    ⟨3, "reference_declarator", some "declarator", true, false, 5, 10, 1⟩,
    ⟨4, "&&", none, false, false, 5, 7, 1⟩,
    ⟨4, "function_declarator", none, true, false, 7, 10, 1⟩,
    ⟨5, "identifier", some "declarator", true, false, 7, 8, 1⟩,
    ⟨5, "parameter_list", some "parameters", true, false, 8, 10, 1⟩,
    ⟨2, "compound_statement", some "body", true, false, 11, 13, 1⟩]
  preorder := by decide

/-- The walk passes the pointer and the reference and collects both marks. -/
theorem functionDeclarator?_descends_reference :
    Wraps referenceTree 3 [3, 5] 7 ∧
      functionDeclarator? referenceTree 3 = some (7, "*&&") ∧
      (Walk.mk 3 "").answer? referenceTree 9 = some (some (7, "*&&")) ∧
      7 ∈ referenceTree.descendants 3 := by
  have hpointer : inner? referenceTree 3 = some 5 := by decide +kernel
  have hreference : inner? referenceTree 5 = some 7 := by decide +kernel
  have hwraps : Wraps referenceTree 3 [3, 5] 7 :=
    ⟨.inner hpointer (.inner hreference (.here 7)), by decide +kernel,
      by decide +kernel⟩
  obtain ⟨hends, hanswers, hbelow, _⟩ :=
    functionDeclarator?_descends referenceTree 3
  have hanswer : functionDeclarator? referenceTree 3 = some (7, "*&&") :=
    (hanswers 7 "*&&").mpr ⟨[3, 5], hwraps, by decide +kernel⟩
  have hended := hends 9 (by decide +kernel)
  rw [hanswer] at hended
  exact ⟨hwraps, hanswer, hended, (hbelow [3, 5] 7 hwraps).1⟩

end Declarator

end CallGraph
