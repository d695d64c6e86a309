import CallGraph.Proofs.Extraction
import CallGraph.Proofs.TreeLinks

/-!
# Methods of Python classes

The methods of a class are found in two ways.  A record of a function says which
class it belongs to, and for that the tree is climbed from the definition: over
its decorators, if it has any, to the block it stands in, and on to the class
that has this block.  The outline lists the methods of a class, and for that the
body of the class is gone through statement by statement.

In a tree of the grammar, where a class has one block as its body and decorators
stand before one definition, both ways end at the same definitions
(`mem_methodNodes_iff`).  Both list them in source order, so the methods of a
class are the definitions that belong to it (`methods_agree`).
-/

namespace CallGraph

/-- What is kept of the items read from a list is read from the items that are
kept. -/
theorem filter_filterMap_of {α β : Type} {f : α → Option β} {p : α → Bool}
    {q : β → Bool} (h : ∀ a b, f a = some b → q b = p a) (xs : List α) :
    (xs.filterMap f).filter q = (xs.filter p).filterMap f := by
  rw [List.filter_filterMap, List.filterMap_filter]
  congr 1
  funext a
  cases hf : f a with
  | none => simp
  | some b => rw [Option.filter_some, h a b hf]

namespace SyntaxTree

variable {t : SyntaxTree}

/-- The child in a role is the first of all the children in that role. -/
theorem childByField?_eq_head? (i : Nat) (field : String) :
    t.childByField? i field = (t.childrenByField i field).head? :=
  List.head?_filter.symm

end SyntaxTree

namespace PythonSource

variable {t : SyntaxTree}

/-- What the grammar of Python promises of classes and decorators: a class has
one block, which is its body and no other child is, and decorators stand before
one definition of a function or class, in the same sense. -/
structure IsGrammatical (t : SyntaxTree) : Prop where
  class_body : ∀ c < t.size, t.kind c = "class_definition" →
    ((t.children c).filter fun b => t.kind b = "block") =
        t.childrenByField c "body" ∧
      (t.childrenByField c "body").length = 1
  decorated : ∀ s < t.size, t.kind s = "decorated_definition" →
    ((t.children s).filter fun d =>
          t.kind d = "function_definition" ∨ t.kind d = "class_definition") =
        t.childrenByField s "definition" ∧
      (t.childrenByField s "definition").length = 1

/-- An item of a list of one is its head. -/
theorem head?_of_mem_of_length {xs : List Nat} {x : Nat} (hx : x ∈ xs)
    (h : xs.length = 1) : xs.head? = some x := by
  obtain ⟨y, rfl⟩ := List.length_eq_one_iff.mp h
  rw [List.mem_singleton.mp hx]
  rfl

namespace IsGrammatical

variable (h : IsGrammatical t)
include h

/-- The body of a class is the block among its children. -/
theorem body_iff {c b : Nat} (hc : t.kind c = "class_definition") :
    t.childByField? c "body" = some b ↔
      t.parent? b = some c ∧ t.kind b = "block" := by
  have hsize := t.lt_size_of_kind (by decide) hc
  obtain ⟨hblocks, hone⟩ := h.class_body c hsize hc
  rw [SyntaxTree.childByField?_eq_head?, ← SyntaxTree.mem_children_iff]
  have hmem : b ∈ t.childrenByField c "body" ↔
      b ∈ t.children c ∧ t.kind b = "block" := by
    rw [← hblocks, List.mem_filter, decide_eq_true_eq]
  rw [← hmem]
  exact ⟨List.mem_of_head?, fun hb => head?_of_mem_of_length hb hone⟩

/-- What a decorated definition defines is the function among its children. -/
theorem definition_iff {s d : Nat} (hs : t.kind s = "decorated_definition")
    (hd : t.kind d = "function_definition") :
    t.childByField? s "definition" = some d ↔ t.parent? d = some s := by
  have hsize := t.lt_size_of_kind (by decide) hs
  obtain ⟨hdefinitions, hone⟩ := h.decorated s hsize hs
  rw [SyntaxTree.childByField?_eq_head?, ← SyntaxTree.mem_children_iff]
  have hmem : d ∈ t.childrenByField s "definition" ↔ d ∈ t.children s := by
    rw [← hdefinitions, List.mem_filter, decide_eq_true_eq]
    exact and_iff_left (Or.inl hd)
  rw [← hmem]
  exact ⟨List.mem_of_head?, fun hd => head?_of_mem_of_length hd hone⟩

end IsGrammatical

/-- The class that has a node as its block. -/
def classOfBlock? (t : SyntaxTree) (block : Nat) : Option Nat :=
  if t.kind block = "block" then
    (t.parent? block).bind fun owner =>
      if t.kind owner = "class_definition" then some owner else none
  else none

/-- A block belongs to a class exactly when the class is its parent. -/
theorem classOfBlock?_eq_some_iff {b c : Nat} :
    classOfBlock? t b = some c ↔
      t.kind b = "block" ∧ t.parent? b = some c ∧
        t.kind c = "class_definition" := by
  unfold classOfBlock?
  constructor
  · intro h
    split at h
    · rename_i hblock
      obtain ⟨owner, howner, h⟩ := Option.bind_eq_some_iff.mp h
      split at h
      · rename_i hclass
        obtain rfl := Option.some.inj h
        exact ⟨hblock, howner, hclass⟩
      · cases h
    · cases h
  · rintro ⟨hblock, howner, hclass⟩
    rw [if_pos hblock, howner, Option.bind_some, if_pos hclass]

theorem guarded_classOfBlock? (t : SyntaxTree) (block : Nat) :
    (do
      guard (t.kind block = "block")
      let owner ← t.parent? block
      guard (t.kind owner = "class_definition")
      return owner) = classOfBlock? t block := by
  rw [guard_bind, classOfBlock?]
  refine if_congr Iff.rfl (congrArg (Option.bind _) ?_) rfl
  exact funext fun owner => guard_bind _ _

/-- **The way up** to a class: from a definition, over its decorators if there
are any, to the block it stands in and on to the class. -/
theorem enclosingClass?_eq (t : SyntaxTree) (d : Nat) :
    enclosingClass? t d = (t.parent? d).bind fun parent =>
      if t.kind parent = "decorated_definition" then
        (t.parent? parent).bind (classOfBlock? t)
      else classOfBlock? t parent := by
  rw [← funext (guarded_classOfBlock? t), enclosingClass?]
  refine congrArg (Option.bind _) (funext fun parent => ?_)
  by_cases hdecorated : t.kind parent = "decorated_definition"
  · exact (if_pos hdecorated).trans (if_pos hdecorated).symm
  · exact (if_neg hdecorated).trans (if_neg hdecorated).symm

/-- A statement of a class body is a definition or has one below its
decorators. -/
theorem methodAt?_eq_some_iff (h : IsGrammatical t) {s d : Nat} :
    methodAt? t s = some d ↔ t.kind d = "function_definition" ∧
      (d = s ∨ t.kind s = "decorated_definition" ∧ t.parent? d = some s) := by
  unfold methodAt?
  constructor
  · intro hmethod
    split at hmethod
    · rename_i hkind
      obtain rfl := Option.some.inj hmethod
      exact ⟨hkind, Or.inl rfl⟩
    · split at hmethod
      · rename_i hdecorated
        obtain ⟨hd, hkind⟩ := Option.filter_eq_some_iff.mp hmethod
        exact ⟨of_decide_eq_true hkind, Or.inr ⟨hdecorated,
          (h.definition_iff hdecorated (of_decide_eq_true hkind)).mp hd⟩⟩
      · cases hmethod
  · rintro ⟨hkind, rfl | ⟨hdecorated, hparent⟩⟩
    · rw [if_pos hkind]
    · rw [if_neg (by rw [hdecorated]; decide), if_pos hdecorated]
      exact Option.filter_eq_some_iff.mpr
        ⟨(h.definition_iff hdecorated hkind).mpr hparent, decide_eq_true hkind⟩

/-- The nodes of the methods that are listed for a class. -/
def methodNodes (t : SyntaxTree) (c : Nat) : List Nat :=
  (t.childByField? c "body").toList.flatMap fun body =>
    (t.children body).filterMap (methodAt? t)

/-- The method names of a class are read off its method nodes, in order. -/
theorem methodNames_eq (t : SyntaxTree) (c : Nat) :
    methodNames t c = (methodNodes t c).filterMap fun d =>
      (t.childByField? d "name").map t.text := by
  unfold methodNames methodNodes
  cases t.childByField? c "body" with
  | none => rfl
  | some body =>
      rw [Option.toList_some, List.flatMap_singleton, List.filterMap_filterMap]

/-- The method nodes of a class come in the order of the source. -/
theorem methodNodes_ascending (h : IsGrammatical t) (c : Nat) :
    (methodNodes t c).Pairwise (· < ·) := by
  unfold methodNodes
  cases t.childByField? c "body" with
  | none => exact List.Pairwise.nil
  | some body =>
      rw [Option.toList_some, List.flatMap_singleton, List.pairwise_filterMap]
      refine (t.children_ascending body).imp_of_mem ?_
      intro s s' hs hs' hlt d hd d' hd'
      have hbelow : ∀ {s d : Nat}, s ∈ t.children body →
          methodAt? t s = some d → d ∈ t.descendants s := by
        intro s d hs hd
        rcases ((methodAt?_eq_some_iff h).mp hd).2 with rfl | ⟨_, hparent⟩
        · exact SyntaxTree.mem_descendants_self (t.mem_children hs).2
        · exact SyntaxTree.mem_descendants_of_mem_children
            (SyntaxTree.mem_children_iff.mpr hparent)
      exact SyntaxTree.lt_of_mem_descendants_children hs hs' hlt
        (hbelow hs hd) (hbelow hs' hd')

/-- **Up and down.**  The methods listed for a class are the definitions from
which the way up ends at that class. -/
theorem mem_methodNodes_iff (h : IsGrammatical t) {c d : Nat}
    (hc : t.kind c = "class_definition") :
    d ∈ methodNodes t c ↔
      t.kind d = "function_definition" ∧ enclosingClass? t d = some c := by
  unfold methodNodes
  simp only [List.mem_flatMap, Option.mem_toList, List.mem_filterMap,
    methodAt?_eq_some_iff h, SyntaxTree.mem_children_iff, h.body_iff hc,
    enclosingClass?_eq]
  constructor
  · rintro ⟨body, ⟨howner, hbody⟩, s, hs, hkind, hmethod⟩
    have hclass : classOfBlock? t body = some c :=
      classOfBlock?_eq_some_iff.mpr ⟨hbody, howner, hc⟩
    refine ⟨hkind, ?_⟩
    rcases hmethod with rfl | ⟨hdecorated, hparent⟩
    · rw [hs, Option.bind_some, if_neg (by rw [hbody]; decide), hclass]
    · rw [hparent, Option.bind_some, if_pos hdecorated, hs, Option.bind_some,
        hclass]
  · rintro ⟨hkind, hup⟩
    obtain ⟨parent, hparent, hup⟩ := Option.bind_eq_some_iff.mp hup
    split at hup
    · rename_i hdecorated
      obtain ⟨body, hstatement, hup⟩ := Option.bind_eq_some_iff.mp hup
      obtain ⟨hbody, howner, _⟩ := classOfBlock?_eq_some_iff.mp hup
      exact ⟨body, ⟨howner, hbody⟩, parent, hstatement, hkind,
        Or.inr ⟨hdecorated, hparent⟩⟩
    · obtain ⟨hbody, howner, _⟩ := classOfBlock?_eq_some_iff.mp hup
      exact ⟨parent, ⟨howner, hbody⟩, d, hparent, hkind, Or.inl rfl⟩

theorem kind_of_enclosingClass? {c d : Nat} (h : enclosingClass? t d = some c) :
    t.kind c = "class_definition" := by
  rw [enclosingClass?_eq] at h
  obtain ⟨parent, _, hup⟩ := Option.bind_eq_some_iff.mp h
  split at hup
  · obtain ⟨_, _, hup⟩ := Option.bind_eq_some_iff.mp hup
    exact (classOfBlock?_eq_some_iff.mp hup).2.2
  · exact (classOfBlock?_eq_some_iff.mp hup).2.2

/-- The methods listed for a class, in order. -/
theorem methodNodes_eq_filter (h : IsGrammatical t) {c : Nat}
    (hc : t.kind c = "class_definition") :
    methodNodes t c =
      (t.findKind SyntaxTree.root "function_definition").filter fun d =>
        enclosingClass? t d = some c := by
  refine SyntaxTree.eq_of_mem_iff_of_ascending (methodNodes_ascending h c)
    (((t.descendants_ascending _).filter _).filter _) fun d => ?_
  rw [mem_methodNodes_iff h hc, List.mem_filter, decide_eq_true_eq,
    SyntaxTree.mem_findKind_root]
  refine and_congr_left fun _ => ⟨fun hkind => ⟨?_, hkind⟩, And.right⟩
  exact t.lt_size_of_kind (by decide) hkind

section Definitions

variable {path : String} {includePrivate : Bool} {i : Nat}

/-- A definition is a method exactly when it has a class, the one around its
node. -/
theorem className_of_definitionAt? {d : Definition}
    (h : definitionAt? t path includePrivate i = some d) :
    d.info.className = className? t i ∧
      d.info.flags.isMethod = (className? t i).isSome := by
  unfold definitionAt? at h
  obtain ⟨_, _, h⟩ := Option.bind_eq_some_iff.mp h
  obtain ⟨_, _, hd⟩ := Option.bind_eq_some_iff.mp h
  obtain rfl := Option.some.inj hd
  exact ⟨rfl, rfl⟩

/-- With private functions included, every function node with a name is a
definition of that name. -/
theorem name_definitionAt? (t : SyntaxTree) (path : String) (i : Nat) :
    (definitionAt? t path true i).map (·.info.name) =
      (t.childByField? i "name").map t.text := by
  unfold definitionAt?
  cases t.childByField? i "name" with
  | none => rfl
  | some name => rfl

end Definitions

/-- The definitions of a file that belong to a class. -/
def methodsIn (t : SyntaxTree) (path : String) (c : Nat) : List Definition :=
  (definitions t path true).filter fun d => enclosingClass? t d.node = some c

/-- The methods of a class are the definitions at the function nodes whose
nearest class it is. -/
theorem methodsIn_eq (t : SyntaxTree) (path : String) (c : Nat) :
    methodsIn t path c =
      ((t.findKind SyntaxTree.root "function_definition").filter fun d =>
        enclosingClass? t d = some c).filterMap (definitionAt? t path true) := by
  refine filter_filterMap_of (fun i d hd => ?_) _
  rw [(definitionAt?_some hd).1]

/-- **Methods.**  In a tree of the grammar the outline lists for every class
with a name, in order, the names of the definitions that belong to it, all of
which are recorded as methods of that class; a definition that belongs to no
class with a name is not recorded as a method. -/
theorem methods_agree (t : SyntaxTree) (path : String) (h : IsGrammatical t) :
    (∀ c name, t.kind c = "class_definition" →
      t.childByField? c "name" = some name →
      ∃ cls ∈ (outline t).classes,
        classAt? t c = some cls ∧ cls.name = t.text name ∧
          cls.methods = (methodsIn t path c).map (·.info.name) ∧
          ∀ d ∈ methodsIn t path c,
            d.info.flags.isMethod = true ∧ d.info.className = some cls.name) ∧
    ∀ d ∈ definitions t path true,
      (∀ c name, t.kind c = "class_definition" →
        t.childByField? c "name" = some name → d ∉ methodsIn t path c) →
      d.info.flags.isMethod = false ∧ d.info.className = none := by
  refine ⟨fun c name hc hname => ?_, fun d hd hnone => ?_⟩
  · have hcls : classAt? t c = some
        { name := t.text name
          line := t.line c
          methods := methodNames t c
          bases := baseNames t c
          namespacePath := none
          isTemplate := false } := by
      rw [classAt?, hname]
      rfl
    have hlisted : c ∈ t.findKind SyntaxTree.root "class_definition" :=
      SyntaxTree.mem_findKind_root.mpr
        ⟨t.lt_size_of_kind (by decide) hc, hc⟩
    refine ⟨_, List.mem_filterMap.mpr ⟨c, hlisted, hcls⟩, hcls, rfl, ?_, ?_⟩
    · change methodNames t c = _
      rw [methodNames_eq, methodNodes_eq_filter h hc, methodsIn_eq,
        List.map_filterMap]
      simp only [name_definitionAt?]
    · intro d hd
      obtain ⟨hdefined, howner⟩ := List.mem_filter.mp hd
      obtain ⟨i, _, hread⟩ := List.mem_filterMap.mp hdefined
      obtain ⟨rfl, _⟩ := definitionAt?_some hread
      obtain ⟨hclassName, hmethod⟩ := className_of_definitionAt? hread
      have hclass : className? t d.node = some (t.text name) := by
        rw [className?, of_decide_eq_true howner, Option.bind_some, hname]
        rfl
      rw [hmethod, hclassName, hclass]
      exact ⟨rfl, rfl⟩
  · obtain ⟨i, _, hread⟩ := List.mem_filterMap.mp hd
    obtain ⟨rfl, _⟩ := definitionAt?_some hread
    obtain ⟨hclassName, hmethod⟩ := className_of_definitionAt? hread
    have hclass : className? t d.node = none := by
      rw [className?, Option.bind_eq_none_iff]
      intro c howner
      rw [Option.map_eq_none_iff, Option.eq_none_iff_forall_ne_some]
      intro name hname
      exact hnone c name (kind_of_enclosingClass? howner) hname
        (List.mem_filter.mpr ⟨hd, decide_eq_true howner⟩)
    rw [hmethod, hclassName, hclass]
    exact ⟨rfl, rfl⟩

/-- The tree of a class `A` with a decorated method `f` and a method `g`, and of
a function `h` behind it. -/
def classTree : SyntaxTree where
  source := "class A:\n    @p\n    def f(): g()\n    def g(): f()\ndef h(): f()\n"
  nodes :=
    let head : List Node := [
      ⟨0, "module", none, true, false, 0, 63, 1⟩,
      ⟨1, "class_definition", none, true, false, 0, 49, 1⟩,
      ⟨2, "identifier", some "name", true, false, 6, 7, 1⟩,
      ⟨2, "block", some "body", true, false, 13, 49, 2⟩,
      ⟨3, "decorated_definition", none, true, false, 13, 32, 2⟩,
      ⟨4, "decorator", none, true, false, 13, 15, 2⟩,
      ⟨5, "identifier", none, true, false, 14, 15, 2⟩]
    let decorated := (deepen 3 (oneLineNodes 3 20)).modifyHead
      fun n => { n with field := some "definition" }
    (head ++ decorated ++ deepen 2 (oneLineNodes 4 37) ++
      oneLineNodes 5 50).toArray
  preorder := by decide

/-- Both ways find the decorated method and the other one, and neither finds the
function behind the class. -/
theorem methods_agree_decorated :
    IsGrammatical classTree ∧
      (∃ cls ∈ (outline classTree).classes, cls.name = "A" ∧
        cls.methods = ["f", "g"] ∧
        ∀ d ∈ methodsIn classTree "a.py" 1, d.info.className = some "A") ∧
      ∃ d ∈ definitions classTree "a.py" true, d.info.name = "h" ∧
        d.info.flags.isMethod = false ∧ d.info.className = none := by
  have hgrammar : IsGrammatical classTree :=
    ⟨by decide +kernel, by decide +kernel⟩
  obtain ⟨hmethods, hothers⟩ := methods_agree classTree "a.py" hgrammar
  refine ⟨hgrammar, ?_, ?_⟩
  · obtain ⟨cls, hcls, _, hname, hlisted, hrecords⟩ :=
      hmethods 1 2 (by decide +kernel) (by decide +kernel)
    have hA : cls.name = "A" := hname.trans (by decide +kernel)
    refine ⟨cls, hcls, hA, hlisted.trans (by decide +kernel), fun d hd => ?_⟩
    rw [(hrecords d hd).2, hA]
  · obtain ⟨d, hread⟩ : ∃ d, definitionAt? classTree "a.py" true 21 = some d :=
      Option.isSome_iff_exists.mp (by decide +kernel)
    have hd : d ∈ definitions classTree "a.py" true :=
      List.mem_filterMap.mpr ⟨21, by decide +kernel, hread⟩
    have hname : (definitionAt? classTree "a.py" true 21).map (·.info.name) =
        some "h" := by
      decide +kernel
    rw [hread] at hname
    refine ⟨d, hd, Option.some.inj hname, ?_⟩
    refine hothers d hd fun c name _ _ hmem => ?_
    have howner : enclosingClass? classTree 21 = some c := by
      rw [← (definitionAt?_some hread).1]
      exact of_decide_eq_true (List.mem_filter.mp hmem).2
    have hnone : enclosingClass? classTree 21 = none := by
      decide +kernel
    exact absurd (hnone.symm.trans howner) (Option.some_ne_none c).symm

end PythonSource

end CallGraph
