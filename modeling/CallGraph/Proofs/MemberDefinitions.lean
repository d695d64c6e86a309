import CallGraph.Proofs.Extraction
import CallGraph.Proofs.TreeLinks

/-!
# Functions defined in C++ classes

The record of a function names its class and its namespaces, and for that the
tree is climbed from the definition.  The outline lists the methods of a class,
and for that the members of the class are gone through, each down to the name
that it declares.

Between a member and its class there is only the list of members and, around
some members, a template (`ancestors_of_member`).  The way up stops at neither,
so it ends at the class, and the namespaces around both are the same.  On the
way down a template gives the first name that one of its parts declares.  So a
function that is defined in a class is recorded under the name of the class, and
is one of its methods (`memberDefinition_recorded`).
-/

namespace CallGraph

/-- The ancestors of a node are its parent and the parent's ancestors. -/
theorem SyntaxTree.ancestors_of_parent? {t : SyntaxTree} {c p : Nat}
    (h : t.parent? c = some p) : t.ancestors c = p :: t.ancestors p := by
  rw [ancestors_eq, h]

/-- A named child has the node for its parent. -/
theorem SyntaxTree.mem_namedChildren {t : SyntaxTree} {c p : Nat}
    (h : c ∈ t.namedChildren p) : t.parent? c = some p :=
  mem_children_iff.mp (List.mem_filter.mp h).1

/-- The first item that gives something is the one whose value is found. -/
theorem findSome?_of_find? {α β : Type} {f : α → Option β} {xs : List α} {a : α}
    (h : (xs.find? fun x => (f x).isSome) = some a) : xs.findSome? f = f a := by
  obtain ⟨ha, before, after, rfl, hbefore⟩ := List.find?_eq_some_iff_append.mp h
  obtain ⟨b, hb⟩ := Option.isSome_iff_exists.mp ha
  rw [hb]
  refine List.findSome?_eq_some_iff.mpr ⟨before, a, after, rfl, hb, ?_⟩
  intro x hx
  simpa using hbefore x hx

namespace CSource

variable {t : SyntaxTree}

/-- Whether a node is a class or struct. -/
def IsClass (t : SyntaxTree) (c : Nat) : Prop :=
  t.kind c = "class_specifier" ∨ t.kind c = "struct_specifier"

instance (t : SyntaxTree) (c : Nat) : Decidable (IsClass t c) := by
  unfold IsClass
  infer_instance

/-- Class bodies are lists of members, as the grammar of C++ has it. -/
def HasMemberLists (t : SyntaxTree) : Prop :=
  ∀ c < t.size, IsClass t c →
    ∀ body ∈ t.childByField? c "body", t.kind body = "field_declaration_list"

/-- A function defined in a class: a member of its body, or the first part that
gives a name of a template that is a member. -/
structure IsMemberDefinition (t : SyntaxTree) (c d : Nat) : Prop where
  kind_eq : t.kind d = "function_definition"
  member : ∃ body, t.childByField? c "body" = some body ∧
    (d ∈ t.namedChildren body ∨
      ∃ template ∈ t.namedChildren body,
        t.kind template = "template_declaration" ∧
        ((t.namedChildren template).find? fun part =>
          (memberName? t part).isSome) = some d)

/-- What a class in the outline is made of. -/
theorem classAt?_some {c : Nat} {cls : ClassInfo}
    (h : classAt? t c = some cls) :
    ∃ body name, t.childByField? c "body" = some body ∧
      t.childByField? c "name" = some name ∧
      (QualifiedName.segments (t.text name)).getLast? = some cls.name ∧
      cls.methods = (t.namedChildren body).filterMap (memberName? t) ∧
      cls.namespacePath = namespacePath? t c := by
  unfold classAt? at h
  obtain ⟨body, hbody, h⟩ := Option.bind_eq_some_iff.mp h
  obtain ⟨name, hname, h⟩ := Option.bind_eq_some_iff.mp h
  obtain ⟨last, hlast, h⟩ := Option.bind_eq_some_iff.mp h
  obtain rfl := Option.some.inj h
  exact ⟨body, name, hbody, hname, hlast, rfl, rfl⟩

/-- **Between a member and its class** there is only the list of members and
maybe a template. -/
theorem ancestors_of_member (hlists : HasMemberLists t) {c d : Nat}
    (hc : IsClass t c) (hd : IsMemberDefinition t c d) :
    ∃ between, t.ancestors d = between ++ c :: t.ancestors c ∧
      ∀ a ∈ between, t.kind a = "field_declaration_list" ∨
        t.kind a = "template_declaration" := by
  obtain ⟨body, hbody, hmember⟩ := hd.member
  have howner : t.parent? body = some c :=
    SyntaxTree.mem_children_iff.mp (t.mem_children_of_childByField? hbody)
  have hsize : c < t.size := by
    have := t.mem_children (t.mem_children_of_childByField? hbody)
    omega
  have hkind := hlists c hsize hc body hbody
  have habove : t.ancestors body = c :: t.ancestors c :=
    SyntaxTree.ancestors_of_parent? howner
  rcases hmember with hdirect | ⟨template, htemplate, htemplateKind, hfirst⟩
  · refine ⟨[body], ?_, ?_⟩
    · rw [SyntaxTree.ancestors_of_parent?
        (SyntaxTree.mem_namedChildren hdirect), habove]
      rfl
    · simp [hkind]
  · have hpart : d ∈ t.namedChildren template := List.mem_of_find?_eq_some hfirst
    refine ⟨[template, body], ?_, ?_⟩
    · rw [SyntaxTree.ancestors_of_parent? (SyntaxTree.mem_namedChildren hpart),
        SyntaxTree.ancestors_of_parent?
          (SyntaxTree.mem_namedChildren htemplate), habove]
      rfl
    · simp [hkind, htemplateKind]

section Way

variable {c d : Nat} {between : List Nat}
  (hway : t.ancestors d = between ++ c :: t.ancestors c)
  (hbetween : ∀ a ∈ between, t.kind a = "field_declaration_list" ∨
    t.kind a = "template_declaration")
include hway hbetween

/-- The way up from a member ends at its class. -/
theorem enclosingClass?_of_between (hc : IsClass t c) :
    enclosingClass? t d = (t.childByField? c "name").bind fun name =>
      (QualifiedName.segments (t.text name)).getLast? := by
  have hfound : ((t.ancestors d).find? fun a =>
      ownerKinds.contains (t.kind a) || t.kind a = "function_definition") =
        some c := by
    rw [hway, List.find?_append, List.find?_eq_none.mpr, Option.none_or,
      List.find?_cons_of_pos]
    · rcases hc with hkind | hkind <;> simp [hkind, ownerKinds]
    · intro a ha
      rcases hbetween a ha with hkind | hkind <;> simp [hkind, ownerKinds]
  have hnot : t.kind c ≠ "function_definition" := by
    rcases hc with hkind | hkind <;> simp [hkind]
  unfold enclosingClass?
  rw [hfound]
  exact (guard_bind _ _).trans (if_pos hnot)

/-- A member has the namespaces of its class around it. -/
theorem namespacePath?_of_between (hc : IsClass t c) :
    namespacePath? t d = namespacePath? t c := by
  have hnone : (between.filter fun a => t.kind a = "namespace_definition") =
      [] := by
    rw [List.filter_eq_nil_iff]
    intro a ha
    rcases hbetween a ha with hkind | hkind <;> simp [hkind]
  have hnot : ¬ t.kind c = "namespace_definition" := by
    rcases hc with hkind | hkind <;> simp [hkind]
  unfold namespacePath? namespaceNames
  rw [hway, List.filter_append, hnone, List.nil_append,
    List.filter_cons_of_neg (by simpa using hnot)]

end Way

/-- A member that defines a function has the last segment of the declared name.
-/
theorem memberName?_of_definition {d : Nat} {segments : List String}
    (hkind : t.kind d = "function_definition")
    (h : Declarator.declaredName? t d = some segments) :
    memberName? t d = segments.getLast? := by
  rw [memberName?, if_pos (Or.inl hkind), h]
  rfl

/-- A template among the members goes by what it declares. -/
theorem memberName?_of_template {i : Nat}
    (hkind : t.kind i = "template_declaration") :
    memberName? t i = (t.namedChildren i).findSome? (memberName? t) := by
  rw [memberName?, if_neg (by simp [hkind]), if_pos hkind]
  conv_rhs => rw [← List.attach_map_subtype_val (t.namedChildren i)]
  rw [List.findSome?_map]
  rfl

/-- The name that a function of a class declares is one of its methods. -/
theorem mem_methods_of_member {c d : Nat} {cls : ClassInfo} {m : String}
    (hcls : classAt? t c = some cls) (hd : IsMemberDefinition t c d)
    (hname : memberName? t d = some m) : m ∈ cls.methods := by
  obtain ⟨body, _, hbody, _, _, hmethods, _⟩ := classAt?_some hcls
  obtain ⟨body', hbody', hmember⟩ := hd.member
  obtain rfl : body = body' := Option.some.inj (hbody.symm.trans hbody')
  rw [hmethods, List.mem_filterMap]
  rcases hmember with hdirect | ⟨template, htemplate, hkind, hfirst⟩
  · exact ⟨d, hdirect, hname⟩
  · refine ⟨template, htemplate, ?_⟩
    rw [memberName?_of_template hkind, findSome?_of_find? hfirst, hname]

/-- A node with a declared name is read as a definition of its name, class and
namespaces. -/
theorem definitionAt?_of_declared (language : Language) (path : String)
    {d : Nat} {segments : List String}
    (h : Declarator.declaredName? t d = some segments) :
    ∃ definition, definitionAt? t language path d = some definition ∧
      definition.node = d ∧
      (definition.info.name, definition.info.className) =
        nameAndClass t language d segments ∧
      definition.info.flags.isMethod =
        (language = .cpp ∧
          (nameAndClass t language d segments).2.isSome : Bool) ∧
      definition.info.namespacePath = namespacePath? t d := by
  have hfunction := h
  unfold Declarator.declaredName? at hfunction
  obtain ⟨declarator, hdeclarator, _⟩ := Option.bind_eq_some_iff.mp hfunction
  unfold definitionAt?
  rw [hdeclarator, h]
  exact ⟨_, rfl, rfl, rfl, rfl, rfl⟩

/-- **Functions in classes.**  Where class bodies are lists of members, a
function that is defined in a class under a plain name is recorded under the
name of the class, with the namespaces of the class, and its name is one of the
methods of the class. -/
theorem memberDefinition_recorded (t : SyntaxTree) (path : String)
    (includePrivate : Bool) (hlists : HasMemberLists t) (c d : Nat)
    (cls : ClassInfo) (m : String) (hc : IsClass t c)
    (hcls : classAt? t c = some cls) (hd : IsMemberDefinition t c d)
    (hname : Declarator.declaredName? t d = some [m]) :
    cls ∈ (Language.cpp.outline t).classes ∧
      (∃ definition ∈ Language.cpp.definitions t path includePrivate,
        definition.node = d ∧
          definition.info.name = cls.name ++ "::" ++ m ∧
          definition.info.className = some cls.name ∧
          definition.info.flags.isMethod = true ∧
          definition.info.namespacePath = cls.namespacePath) ∧
      m ∈ cls.methods := by
  obtain ⟨body, name, hbody, hclassName, hlast, _, hpath⟩ := classAt?_some hcls
  obtain ⟨between, hway, hbetween⟩ := ancestors_of_member hlists hc hd
  have howner : enclosingClass? t d = some cls.name := by
    rw [enclosingClass?_of_between hway hbetween hc, hclassName,
      Option.bind_some, hlast]
  have hfull : nameAndClass t .cpp d [m] =
      (cls.name ++ "::" ++ m, some cls.name) := by
    unfold nameAndClass
    rw [if_neg (by simp)]
    simp only [if_pos, howner]
    simp [Text.joinColons]
  refine ⟨?_, ?_, ?_⟩
  · have hsize : c < t.size := by
      have := t.mem_children (t.mem_children_of_childByField? hbody)
      omega
    have hlisted : c ∈ (t.descendants SyntaxTree.root).filter fun i =>
        t.kind i = "class_specifier" ∨ t.kind i = "struct_specifier" :=
      List.mem_filter.mpr
        ⟨SyntaxTree.mem_descendants_root.mpr hsize, decide_eq_true hc⟩
    exact List.mem_filterMap.mpr ⟨c, hlisted, hcls⟩
  · obtain ⟨definition, hread, hnode, hnames, hmethod, hnamespace⟩ :=
      definitionAt?_of_declared .cpp path hname
    rw [hfull] at hnames hmethod
    obtain ⟨hrecorded, hclass⟩ := Prod.mk.inj hnames
    refine ⟨definition, List.mem_filterMap.mpr ⟨d, ?_, hread⟩, hnode, hrecorded,
      hclass, hmethod, ?_⟩
    · exact SyntaxTree.mem_findKind_root.mpr
        ⟨SyntaxTree.lt_size_of_kind (by decide) hd.kind_eq, hd.kind_eq⟩
    · rw [hnamespace, hpath, namespacePath?_of_between hway hbetween hc]
  · exact mem_methods_of_member hcls hd
      (memberName?_of_definition hd.kind_eq hname)

/-- The tree, down to what is read of it, of a struct in a namespace with a
template for a method. -/
def templateMemberTree : SyntaxTree where
  source := "namespace n { struct C { template<class T> T f() {} }; }"
  nodes := #[
    ⟨0, "translation_unit", none, true, false, 0, 56, 1⟩,
    ⟨1, "namespace_definition", none, true, false, 0, 56, 1⟩,
    ⟨2, "namespace_identifier", some "name", true, false, 10, 11, 1⟩,
    ⟨2, "declaration_list", some "body", true, false, 12, 56, 1⟩,
    ⟨3, "struct_specifier", none, true, false, 14, 53, 1⟩,
    ⟨4, "type_identifier", some "name", true, false, 21, 22, 1⟩,
    ⟨4, "field_declaration_list", some "body", true, false, 23, 53, 1⟩,
    ⟨5, "template_declaration", none, true, false, 25, 51, 1⟩,
    ⟨6, "template_parameter_list", some "parameters", true, false, 33, 42, 1⟩,
    ⟨6, "function_definition", none, true, false, 43, 51, 1⟩,
    ⟨7, "type_identifier", some "type", true, false, 43, 44, 1⟩,
    ⟨7, "function_declarator", some "declarator", true, false, 45, 48, 1⟩,
    ⟨8, "field_identifier", some "declarator", true, false, 45, 46, 1⟩,
    ⟨8, "parameter_list", some "parameters", true, false, 46, 48, 1⟩,
    ⟨7, "compound_statement", some "body", true, false, 49, 51, 1⟩]
  preorder := by decide

/-- Its struct, as the outline lists it. -/
def templateMemberClass : ClassInfo :=
  { name := "C"
    line := 1
    methods := ["f"]
    bases := []
    namespacePath := some "n"
    isTemplate := false }

/-- The method inside the template is recorded as `C::f` in the namespace. -/
theorem memberDefinition_recorded_template :
    HasMemberLists templateMemberTree ∧
      classAt? templateMemberTree 4 = some templateMemberClass ∧
      IsMemberDefinition templateMemberTree 4 9 ∧
      Declarator.declaredName? templateMemberTree 9 = some ["f"] ∧
      ∃ definition ∈
          Language.cpp.definitions templateMemberTree "a.cpp" false,
        definition.node = 9 ∧ definition.info.name = "C::f" ∧
          definition.info.className = some "C" ∧
          definition.info.namespacePath = some "n" := by
  have hlists : HasMemberLists templateMemberTree := by
    unfold HasMemberLists
    decide +kernel
  have hcls : classAt? templateMemberTree 4 = some templateMemberClass := by
    decide +kernel
  have hmember : IsMemberDefinition templateMemberTree 4 9 := by
    refine ⟨by decide +kernel, 6, by decide +kernel, Or.inr ?_⟩
    exact ⟨7, by decide +kernel, by decide +kernel, by decide +kernel⟩
  have hname : Declarator.declaredName? templateMemberTree 9 = some ["f"] := by
    decide +kernel
  obtain ⟨_, ⟨definition, hdefined, hnode, hrecorded, hclass, _, hpath⟩, _⟩ :=
    memberDefinition_recorded templateMemberTree "a.cpp" false hlists 4 9
      templateMemberClass "f" (by decide +kernel) hcls hmember hname
  exact ⟨hlists, hcls, hmember, hname, definition, hdefined, hnode,
    hrecorded.trans (by decide +kernel), hclass, hpath⟩

end CSource

end CallGraph
