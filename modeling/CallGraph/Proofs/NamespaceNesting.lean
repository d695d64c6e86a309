import CallGraph.Extract.CSource
import CallGraph.Proofs.TreeLinks
import Mathlib.Data.Set.Card

/-!
# Nested namespaces

The path of the namespaces around a node is collected on the way up to the
root: innermost first, without the namespaces that have no name, and turned
round at the end.  The level of a namespace is counted on the same way, and
there the namespaces without a name do count.

Both have a recursive law, which goes by the nearest namespace of the kind that
counts (`IsNearestAbove`).  The way up to it passes no other one, and from there
on it is the way up from that namespace (`isNearestAbove_iff`).  So the path is
the path of the nearest named namespace with its name behind it
(`namespacePath?_of_nearest`), and there is one namespace more around a node
than around the nearest one (`ncard_namespacesAround_of_nearest`).
-/

namespace CallGraph

namespace SyntaxTree

/-- The nearest of the nodes above a node that have a property. -/
structure IsNearestAbove (t : SyntaxTree) (p : Nat → Prop) (i n : Nat) :
    Prop where
  above : t.Above n i
  holds : p n
  nearest : ∀ a, t.Above a i → p a → a = n ∨ t.Above a n

variable {t : SyntaxTree}

/-- What follows a node on a way up is the way up from that node. -/
theorem eq_ancestors_of_append {i n : Nat} {before after : List Nat}
    (h : t.ancestors i = before ++ n :: after) : after = t.ancestors n := by
  induction before generalizing i with
  | nil =>
      have hparent : t.parent? i = some n := by rw [parent?, h]; rfl
      rw [ancestors_eq, hparent] at h
      exact (List.cons.inj h).2.symm
  | cons b before ih =>
      have hparent : t.parent? i = some b := by rw [parent?, h]; rfl
      rw [ancestors_eq, hparent] at h
      exact ih (List.cons.inj h).2

/-- **The nearest node above** with a property cuts the way up: it is passed by
nothing with the property, and from there on the way is its own. -/
theorem isNearestAbove_iff {p : Nat → Prop} {i n : Nat} :
    t.IsNearestAbove p i n ↔
      ∃ between, t.ancestors i = between ++ n :: t.ancestors n ∧ p n ∧
        ∀ a ∈ between, ¬ p a := by
  constructor
  · rintro ⟨habove, hn, hnearest⟩
    obtain ⟨between, after, hway⟩ :=
      List.append_of_mem (mem_ancestors.mpr habove)
    obtain rfl := eq_ancestors_of_append hway
    refine ⟨between, hway, hn, fun a ha hpa => ?_⟩
    have horder := t.ancestors_descending i
    rw [hway, List.pairwise_append] at horder
    have hlt : a > n := horder.2.2 a ha n List.mem_cons_self
    have hup : a ∈ t.ancestors i := hway ▸ List.mem_append_left _ ha
    rcases hnearest a (mem_ancestors.mp hup) hpa with rfl | habove'
    · exact Nat.lt_irrefl a hlt
    · exact Nat.lt_asymm hlt habove'.1
  · rintro ⟨between, hway, hn, hbetween⟩
    refine ⟨mem_ancestors.mp ?_, hn, fun a ha hpa => ?_⟩
    · rw [hway]
      exact List.mem_append_right _ List.mem_cons_self
    · have hmem := mem_ancestors.mpr ha
      rw [hway] at hmem
      rcases List.mem_append.mp hmem with hpassed | hrest
      · exact absurd hpa (hbetween a hpassed)
      · exact (List.mem_cons.mp hrest).imp_right mem_ancestors.mp

/-- If a node above has a property, there is a nearest one that has it. -/
theorem exists_isNearestAbove {p : Nat → Prop} [DecidablePred p] {a i : Nat}
    (ha : t.Above a i) (hpa : p a) : ∃ n, t.IsNearestAbove p i n := by
  have hfound : ((t.ancestors i).find? fun b => p b).isSome := by
    rw [List.find?_isSome]
    exact ⟨a, mem_ancestors.mpr ha, decide_eq_true hpa⟩
  obtain ⟨n, hn⟩ := Option.isSome_iff_exists.mp hfound
  obtain ⟨hpn, between, after, hway, hbetween⟩ :=
    List.find?_eq_some_iff_append.mp hn
  obtain rfl := eq_ancestors_of_append hway
  refine ⟨n, isNearestAbove_iff.mpr ⟨between, hway, of_decide_eq_true hpn, ?_⟩⟩
  intro b hb
  simpa using hbetween b hb

end SyntaxTree

namespace CSource

variable {t : SyntaxTree}

/-- A namespace, with or without a name. -/
def IsNamespace (t : SyntaxTree) (i : Nat) : Prop :=
  t.kind i = "namespace_definition"

/-- A namespace with a name. -/
def IsNamedNamespace (t : SyntaxTree) (i : Nat) : Prop :=
  IsNamespace t i ∧ (t.childByField? i "name").isSome

/-- The namespaces around a node, with or without a name. -/
def namespacesAround (t : SyntaxTree) (i : Nat) : Set Nat :=
  {a | t.Above a i ∧ IsNamespace t a}

instance : DecidablePred (IsNamespace t) := fun i =>
  inferInstanceAs (Decidable (t.kind i = "namespace_definition"))

instance : DecidablePred (IsNamedNamespace t) := fun i =>
  inferInstanceAs
    (Decidable (IsNamespace t i ∧ (t.childByField? i "name").isSome))

/-- What a node adds to the names of the namespaces around the nodes below
it. -/
def namespaceName? (t : SyntaxTree) (i : Nat) : Option String :=
  if IsNamespace t i then
    (t.childByField? i "name").map fun name => Text.compact (t.text name)
  else none

/-- Only a namespace with a name gives one. -/
theorem namespaceName?_eq_none {a : Nat} (h : ¬ IsNamedNamespace t a) :
    namespaceName? t a = none := by
  unfold namespaceName?
  split
  · rename_i hkind
    have hname : ¬ (t.childByField? a "name").isSome := fun hname =>
      h ⟨hkind, hname⟩
    rw [Option.not_isSome_iff_eq_none.mp hname]
    rfl
  · rfl

/-- The names around a node are read from its ancestors, the outermost first.
-/
theorem namespaceNames_eq (t : SyntaxTree) (i : Nat) :
    namespaceNames t i =
      ((t.ancestors i).filterMap (namespaceName? t)).reverse := by
  unfold namespaceNames
  rw [List.filterMap_filter]
  congr 2
  funext a
  by_cases hkind : t.kind a = "namespace_definition"
  · simp [namespaceName?, IsNamespace, hkind]
  · simp [namespaceName?, IsNamespace, hkind]

/-- Without a named namespace around it a node has no path. -/
theorem namespacePath?_of_none {i : Nat}
    (h : ∀ a, t.Above a i → ¬ IsNamedNamespace t a) :
    namespacePath? t i = none := by
  have hnames : namespaceNames t i = [] := by
    rw [namespaceNames_eq, List.reverse_eq_nil_iff, List.filterMap_eq_nil_iff]
    intro a ha
    exact namespaceName?_eq_none (h a (SyntaxTree.mem_ancestors.mp ha))
  unfold namespacePath?
  rw [hnames]

/-- The names around a node are those around the nearest named namespace, and
then its own. -/
theorem namespaceNames_of_nearest {i n name : Nat}
    (h : t.IsNearestAbove (IsNamedNamespace t) i n)
    (hname : t.childByField? n "name" = some name) :
    namespaceNames t i =
      namespaceNames t n ++ [Text.compact (t.text name)] := by
  obtain ⟨between, hway, hn, hbetween⟩ := SyntaxTree.isNearestAbove_iff.mp h
  have hnone : between.filterMap (namespaceName? t) = [] := by
    rw [List.filterMap_eq_nil_iff]
    intro a ha
    exact namespaceName?_eq_none (hbetween a ha)
  have hsome : namespaceName? t n = some (Text.compact (t.text name)) := by
    unfold namespaceName?
    rw [if_pos hn.1, hname]
    rfl
  rw [namespaceNames_eq, namespaceNames_eq, hway, List.filterMap_append, hnone,
    List.nil_append, List.filterMap_cons_some hsome, List.reverse_cons]

/-- **Paths.**  The path of a node is the path of the nearest named namespace,
with its name behind it. -/
theorem namespacePath?_of_nearest {i n name : Nat}
    (h : t.IsNearestAbove (IsNamedNamespace t) i n)
    (hname : t.childByField? n "name" = some name) :
    namespacePath? t i =
      some ((namespacePath? t n).elim "" (· ++ "::") ++
        Text.compact (t.text name)) := by
  have hnames := namespaceNames_of_nearest h hname
  unfold namespacePath?
  rw [hnames]
  cases houter : namespaceNames t n with
  | nil => simp
  | cons first rest =>
      have hjoin := Text.joinColons_append (List.cons_ne_nil first rest)
        (List.cons_ne_nil (Text.compact (t.text name)) [])
      rw [Text.joinColons_singleton] at hjoin
      exact congrArg some hjoin

theorem finite_namespacesAround (t : SyntaxTree) (i : Nat) :
    (namespacesAround t i).Finite :=
  (Set.finite_lt_nat i).subset fun _ ha => ha.1.1

/-- The level of a namespace is the number of namespaces around it. -/
theorem nestedLevel_eq_ncard {i : Nat} {info : NamespaceInfo}
    (h : namespaceAt? t i = some info) :
    info.nestedLevel = (namespacesAround t i).ncard := by
  obtain ⟨name, _, rfl⟩ := Option.map_eq_some_iff.mp h
  have hset : namespacesAround t i =
      ((t.ancestors i).filter fun a =>
        t.kind a = "namespace_definition").toFinset := by
    ext a
    simp [namespacesAround, IsNamespace, SyntaxTree.mem_ancestors]
  have hnodup : ((t.ancestors i).filter fun a =>
      t.kind a = "namespace_definition").Nodup :=
    ((t.ancestors_descending i).imp Nat.ne_of_gt).filter _
  rw [hset, Set.ncard_coe_finset, List.toFinset_card_of_nodup hnodup,
    List.countP_eq_length_filter]

/-- **Levels.**  Around a node there are the nearest namespace and those around
it. -/
theorem ncard_namespacesAround_of_nearest {i n : Nat}
    (h : t.IsNearestAbove (IsNamespace t) i n) :
    (namespacesAround t i).ncard = (namespacesAround t n).ncard + 1 := by
  have hinsert : namespacesAround t i = insert n (namespacesAround t n) := by
    ext a
    constructor
    · intro ha
      exact (h.nearest a ha.1 ha.2).imp_right fun habove => ⟨habove, ha.2⟩
    · intro ha
      rcases ha with rfl | ha
      · exact ⟨h.above, h.holds⟩
      · exact ⟨ha.1.trans h.above, ha.2⟩
  have hnot : n ∉ namespacesAround t n := fun hn => Nat.lt_irrefl n hn.1.1
  rw [hinsert, Set.ncard_insert_of_notMem hnot (finite_namespacesAround t n)]

/-- A named namespace is listed in the outline. -/
theorem namespaceAt?_of_named {i : Nat} (h : IsNamedNamespace t i) :
    ∃ info, namespaceAt? t i = some info ∧
      info ∈ (outline t .cpp).namespaces := by
  obtain ⟨name, hname⟩ := Option.isSome_iff_exists.mp h.2
  have hinfo : namespaceAt? t i = some _ := congrArg (Option.map _) hname
  have hlisted : i ∈ t.findKind SyntaxTree.root "namespace_definition" :=
    SyntaxTree.mem_findKind_root.mpr
      ⟨SyntaxTree.lt_size_of_kind (by decide) h.1, h.1⟩
  exact ⟨_, hinfo, List.mem_filterMap.mpr ⟨i, hlisted, hinfo⟩⟩

/-- **Nesting.**  A node without a named namespace around it has no path;
another one has the path of the nearest of them, if it has one, and then its
name.  The level of a named namespace, as the outline lists it, is zero when no
namespace is around it, named or not, and otherwise one more than the number of
namespaces around the nearest one. -/
theorem namespaces_nest (t : SyntaxTree) :
    (∀ i, (∀ a, t.Above a i → ¬ IsNamedNamespace t a) →
        namespacePath? t i = none) ∧
      (∀ i a, t.Above a i → IsNamedNamespace t a →
        ∃ n name, t.IsNearestAbove (IsNamedNamespace t) i n ∧
          t.childByField? n "name" = some name ∧
          namespacePath? t i =
            some ((namespacePath? t n).elim "" (· ++ "::") ++
              Text.compact (t.text name))) ∧
      ∀ i, IsNamedNamespace t i →
        ∃ info, namespaceAt? t i = some info ∧
          info ∈ (outline t .cpp).namespaces ∧
          ((∀ a, t.Above a i → ¬ IsNamespace t a) → info.nestedLevel = 0) ∧
          ∀ a, t.Above a i → IsNamespace t a →
            ∃ n, t.IsNearestAbove (IsNamespace t) i n ∧
              info.nestedLevel = (namespacesAround t n).ncard + 1 := by
  refine ⟨fun i => namespacePath?_of_none, fun i a ha hnamed => ?_,
    fun i hnamed => ?_⟩
  · obtain ⟨n, hn⟩ := SyntaxTree.exists_isNearestAbove ha hnamed
    obtain ⟨name, hname⟩ := Option.isSome_iff_exists.mp hn.holds.2
    exact ⟨n, name, hn, hname, namespacePath?_of_nearest hn hname⟩
  · obtain ⟨info, hinfo, hlisted⟩ := namespaceAt?_of_named hnamed
    have hlevel := nestedLevel_eq_ncard hinfo
    refine ⟨info, hinfo, hlisted, fun hnone => ?_, fun a ha hspace => ?_⟩
    · rw [hlevel, Set.ncard_eq_zero (finite_namespacesAround t i)]
      exact Set.eq_empty_of_forall_notMem fun a ha => hnone a ha.1 ha.2
    · obtain ⟨n, hn⟩ := SyntaxTree.exists_isNearestAbove ha hspace
      exact ⟨n, hn, hlevel.trans (ncard_namespacesAround_of_nearest hn)⟩

/-- The tree, down to what is read of it, of a namespace inside of one without a
name inside of another one. -/
def unnamedTree : SyntaxTree where
  source := "namespace a { namespace { namespace b { int x; } } }"
  nodes := #[
    ⟨0, "translation_unit", none, true, false, 0, 52, 1⟩,
    ⟨1, "namespace_definition", none, true, false, 0, 52, 1⟩,
    ⟨2, "namespace_identifier", some "name", true, false, 10, 11, 1⟩,
    ⟨2, "declaration_list", some "body", true, false, 12, 52, 1⟩,
    ⟨3, "namespace_definition", none, true, false, 14, 50, 1⟩,
    ⟨4, "declaration_list", some "body", true, false, 24, 50, 1⟩,
    ⟨5, "namespace_definition", none, true, false, 26, 48, 1⟩,
    ⟨6, "namespace_identifier", some "name", true, false, 36, 37, 1⟩,
    ⟨6, "declaration_list", some "body", true, false, 38, 48, 1⟩,
    ⟨7, "declaration", none, true, false, 40, 46, 1⟩]
  preorder := by decide

/-- The namespace without a name is not in the path of the declaration, and
counts for the level of the innermost one. -/
theorem namespaces_nest_unnamed :
    (unnamedTree.Above 1 9 ∧ IsNamedNamespace unnamedTree 1) ∧
      (∃ n name, unnamedTree.IsNearestAbove (IsNamedNamespace unnamedTree) 9 n ∧
        unnamedTree.childByField? n "name" = some name ∧
        some "a::b" =
          some ((namespacePath? unnamedTree n).elim "" (· ++ "::") ++
            Text.compact (unnamedTree.text name))) ∧
      (unnamedTree.Above 4 6 ∧ IsNamespace unnamedTree 4 ∧
        IsNamedNamespace unnamedTree 6) ∧
      ∃ n, unnamedTree.IsNearestAbove (IsNamespace unnamedTree) 6 n ∧
        2 = (namespacesAround unnamedTree n).ncard + 1 := by
  have hdeclaration : unnamedTree.Above 1 9 :=
    SyntaxTree.mem_ancestors.mp (by decide +kernel)
  have hinner : unnamedTree.Above 4 6 :=
    SyntaxTree.mem_ancestors.mp (by decide +kernel)
  have houterNamed : IsNamedNamespace unnamedTree 1 := by decide +kernel
  have hinnerNamed : IsNamedNamespace unnamedTree 6 := by decide +kernel
  have hunnamed : IsNamespace unnamedTree 4 := by decide +kernel
  have hpath : namespacePath? unnamedTree 9 = some "a::b" := by decide +kernel
  have hrecord : namespaceAt? unnamedTree 6 = some ⟨"b", 1, 2⟩ := by
    decide +kernel
  obtain ⟨_, hpaths, hlevels⟩ := namespaces_nest unnamedTree
  obtain ⟨info, hinfo, _, _, hlevel⟩ := hlevels 6 hinnerNamed
  obtain rfl : info = ⟨"b", 1, 2⟩ := Option.some.inj (hinfo.symm.trans hrecord)
  have hnearest := hpaths 9 1 hdeclaration houterNamed
  rw [hpath] at hnearest
  exact ⟨⟨hdeclaration, houterNamed⟩, hnearest,
    ⟨hinner, hunnamed, hinnerNamed⟩, hlevel 4 hinner hunnamed⟩

end CSource

end CallGraph
