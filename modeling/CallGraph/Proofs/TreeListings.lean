import CallGraph.Proofs.TreeLinks

/-!
# Listings of ordered trees

A syntax tree is stored as a listing and its links are read off the depths.
Here the listing is taken from where it comes: a finite ordered tree, whose
nodes are written down in pre-order, each with its depth.

An ordered forest is a first tree, given by its root and the forest below it,
and the trees after it.  That is also how a cursor sees it, which moves from a
node to its first child or to its next sibling; a recursion on forests is such a
walk.  Listing, number of nodes and parents of a forest are three of them.

Every ordered tree has a listing that is accepted, and the links found in it are
those of the tree (`map_parent?_of_listing`); the induction is on the forest,
and carries that no node between a parent and the next of its children is as
high as the parent.  Conversely an accepted listing that has a node is the
listing of a tree (`exists_forest_of_stepsFrom`).
-/

namespace CallGraph

/-- A finite ordered forest: none, or a tree and the trees after it. -/
inductive Forest where
  | nil
  | cons (label : Node) (below rest : Forest)

/-- A finite ordered tree.  The depths in its labels carry no meaning. -/
structure OrderedTree where
  label : Node
  below : Forest

namespace Forest

/-- The number of nodes. -/
def size : Forest → Nat
  | nil => 0
  | cons _ below rest => below.size + rest.size + 1

/-- The nodes in pre-order, where the roots are at depth `d`. -/
def listing (d : Nat) : Forest → List Node
  | nil => []
  | cons label below rest =>
    { label with depth := d } :: (below.listing (d + 1) ++ rest.listing d)

/-- The parent of each node in pre-order, where nodes are numbered from `first`
on and the roots are children of `parent`. -/
def parents (parent first : Nat) : Forest → List Nat
  | nil => []
  | cons _ below rest =>
    parent :: (below.parents first (first + 1) ++
      rest.parents parent (first + 1 + below.size))

/-- A forest is listed with as many nodes as it has. -/
theorem length_listing (forest : Forest) (d : Nat) :
    (forest.listing d).length = forest.size := by
  induction forest generalizing d with
  | nil => rfl
  | cons label below rest ihBelow ihRest =>
      rw [listing, size, List.length_cons, List.length_append, ihBelow, ihRest]

/-- No node of a listing is above the depth that the listing begins with. -/
theorem le_depth_of_mem_listing {forest : Forest} {d : Nat} {n : Node}
    (h : n ∈ forest.listing d) : d ≤ n.depth := by
  induction forest generalizing d with
  | nil => exact absurd h List.not_mem_nil
  | cons label below rest ihBelow ihRest =>
      rw [listing, List.mem_cons, List.mem_append] at h
      rcases h with rfl | hbelow | hrest
      · exact Nat.le_refl d
      · exact Nat.le_of_succ_le (ihBelow hbelow)
      · exact ihRest hrest

/-- The listing of a forest can stand wherever its roots can, before anything
that can follow a node at least as deep as they are. -/
theorem stepsFrom_listing (forest : Forest) {d e : Nat} {after : List Nat}
    (hpos : 1 ≤ d) (hd : d ≤ e + 1)
    (hafter : ∀ e', d ≤ e' + 1 → stepsFrom e' after = true) :
    stepsFrom e ((forest.listing d).map (·.depth) ++ after) = true := by
  induction forest generalizing d e after with
  | nil => exact hafter e hd
  | cons label below rest ihBelow ihRest =>
      rw [listing, List.map_cons, List.cons_append, stepsFrom, List.map_append,
        List.append_assoc]
      have hrest : ∀ e', d + 1 ≤ e' + 1 →
          stepsFrom e' ((rest.listing d).map (·.depth) ++ after) = true :=
        fun e' he' => ihRest hpos (by omega) hafter
      have hbelow := ihBelow (Nat.le_add_left 1 d) (Nat.le_refl (d + 1)) hrest
      simp [hpos, hd, hbelow]

/-- **Links.**  Where a forest is listed, the parents read off the depths are
its own. -/
theorem map_parent?_of_listing {t : SyntaxTree} (forest : Forest)
    {d parent first : Nat}
    (hplaced : (List.range' first forest.size).map t.depth =
      (forest.listing d).map (·.depth))
    (hlt : parent < first) (hdepth : t.depth parent + 1 = d)
    (hbetween : ∀ m, parent < m → m < first → d ≤ t.depth m) :
    (List.range' first forest.size).map t.parent? =
      (forest.parents parent first).map some := by
  induction forest generalizing d parent first with
  | nil => rfl
  | cons label below rest ihBelow ihRest =>
      rw [size, List.range'_succ, ← List.range'_append_1, List.map_cons,
        List.map_append] at hplaced ⊢
      rw [listing, List.map_cons, List.map_append, List.cons.injEq] at hplaced
      obtain ⟨hroot, hafter⟩ := hplaced
      change t.depth first = d at hroot
      obtain ⟨hbelow, hrest⟩ := List.append_inj hafter
        (by simp only [List.length_map, List.length_range', length_listing])
      have hdeeper : ∀ m, first < m → m < first + 1 + below.size →
          d + 1 ≤ t.depth m := by
        intro m hm hmsize
        have hmem : t.depth m ∈
            (List.range' (first + 1) below.size).map t.depth :=
          List.mem_map_of_mem (List.mem_range'_1.mpr ⟨hm, hmsize⟩)
        rw [hbelow] at hmem
        obtain ⟨n, hn, heq⟩ := List.mem_map.mp hmem
        rw [← heq]
        exact le_depth_of_mem_listing hn
      have hparent : t.parent? first = some parent := by
        rw [SyntaxTree.parent?_eq_some_iff]
        refine ⟨hlt, by omega, fun m hm hmfirst => ?_⟩
        rw [hroot]
        exact hbetween m hm hmfirst
      have hbelowParents := ihBelow hbelow (Nat.lt_succ_self first)
        (by omega) (fun m hm hmfirst => by omega)
      have hbetweenRest : ∀ m, parent < m → m < first + 1 + below.size →
          d ≤ t.depth m := by
        intro m hm hmrest
        rcases Nat.lt_trichotomy m first with hbefore | rfl | hbehind
        · exact hbetween m hm hbefore
        · exact Nat.le_of_eq hroot.symm
        · exact Nat.le_of_succ_le (hdeeper m hbehind hmrest)
      have hrestParents := ihRest hrest (by omega) hdepth hbetweenRest
      rw [parents, List.map_cons, List.map_append, hparent, hbelowParents,
        hrestParents]

end Forest

/-- The rest of a listing with small steps has small steps too. -/
theorem exists_stepsFrom_of_append {e : Nat} {depths after : List Nat}
    (h : stepsFrom e (depths ++ after) = true) :
    ∃ e', stepsFrom e' after = true := by
  induction depths generalizing e with
  | nil => exact ⟨e, h⟩
  | cons d depths ih =>
      rw [List.cons_append, stepsFrom, Bool.and_eq_true] at h
      exact ih h.2

/-- The first node of such a rest is below the root and at most one level
deeper than the node before. -/
theorem head_of_stepsFrom {e : Nat} {nodes : List Node}
    (h : stepsFrom e (nodes.map (·.depth)) = true) :
    ∀ n ∈ nodes.head?, 1 ≤ n.depth ∧ n.depth ≤ e + 1 := by
  intro n hn
  obtain ⟨later, rfl⟩ := List.head?_eq_some_iff.mp hn
  simp only [List.map_cons, stepsFrom, Bool.and_eq_true, decide_eq_true_eq] at h
  exact h.1

/-- Nodes whose depths keep the law of listings start with the listing of a
forest at depth `d`, if the first is not deeper; what is left is higher up.
The induction is on the length, since what is left behind the first root's
forest is not a tail that the list was built from. -/
theorem exists_forest_of_stepsFrom (nodes : List Node) {d e : Nat}
    (hsteps : stepsFrom e (nodes.map (·.depth)) = true)
    (hhead : ∀ n ∈ nodes.head?, n.depth ≤ d) :
    ∃ (forest : Forest) (left : List Node),
      nodes = forest.listing d ++ left ∧ ∀ n ∈ left.head?, n.depth < d := by
  induction hlength : nodes.length using Nat.strongRecOn
    generalizing nodes d e with
  | ind length ih =>
      cases nodes with
      | nil => exact ⟨.nil, [], rfl, fun n hn => by cases hn⟩
      | cons n nodes =>
          have hn : n.depth ≤ d := hhead n rfl
          by_cases hhigh : n.depth < d
          · refine ⟨.nil, n :: nodes, rfl, fun m hm => ?_⟩
            cases hm
            exact hhigh
          · have hdepth : n.depth = d := by omega
            rw [List.map_cons, stepsFrom, Bool.and_eq_true] at hsteps
            have hnext : ∀ m ∈ nodes.head?, m.depth ≤ d + 1 := by
              intro m hm
              rw [← hdepth]
              exact (head_of_stepsFrom hsteps.2 m hm).2
            rw [List.length_cons] at hlength
            obtain ⟨below, behind, hbelow, hbehind⟩ :=
              ih nodes.length (by omega) nodes hsteps.2 hnext rfl
            obtain ⟨e', hsteps'⟩ :
                ∃ e', stepsFrom e' (behind.map (·.depth)) = true := by
              apply exists_stepsFrom_of_append
              rw [← List.map_append, ← hbelow]
              exact hsteps.2
            have hshorter : behind.length ≤ nodes.length := by
              rw [hbelow, List.length_append]
              omega
            obtain ⟨rest, left, hrest, hleft⟩ :=
              ih behind.length (by omega) behind hsteps'
                (fun m hm => Nat.le_of_lt_succ (hbehind m hm)) rfl
            refine ⟨.cons n below rest, left, ?_, hleft⟩
            rw [Forest.listing, List.cons_append, List.append_assoc, ← hrest,
              ← hbelow, ← hdepth]

namespace OrderedTree

variable (tree : OrderedTree)

/-- The number of nodes. -/
def size : Nat := tree.below.size + 1

/-- The nodes in pre-order, each with its depth. -/
def listing : List Node :=
  { tree.label with depth := 0 } :: tree.below.listing 1

/-- The parent of each node, in pre-order. -/
def parents : List (Option Nat) :=
  none :: (tree.below.parents 0 1).map some

/-- The listing of an ordered tree is one of a tree: one root and no step down
by more than one level. -/
theorem isPreorder_listing :
    isPreorder (tree.listing.map (·.depth)) = true := by
  have hsteps :
      stepsFrom 0 ((tree.below.listing 1).map (·.depth) ++ []) = true :=
    tree.below.stepsFrom_listing (Nat.le_refl 1) (Nat.le_refl 1)
      (fun _ _ => rfl)
  rw [List.append_nil] at hsteps
  rw [listing, List.map_cons, isPreorder, hsteps]
  rfl

/-- What is accepted is nothing at all or the listing of a tree.  Nothing but
the root is at depth zero, so nothing is left over. -/
theorem eq_listing_of_isPreorder {nodes : List Node}
    (h : isPreorder (nodes.map (·.depth)) = true) :
    nodes = [] ∨ ∃ tree : OrderedTree, nodes = tree.listing := by
  cases nodes with
  | nil => exact Or.inl rfl
  | cons n nodes =>
      rw [List.map_cons, isPreorder, Bool.and_eq_true, beq_iff_eq] at h
      obtain ⟨hroot, hsteps⟩ := h
      have hbounds : ∀ m ∈ nodes.head?, m.depth ≤ 1 := by
        intro m hm
        have hm := (head_of_stepsFrom hsteps m hm).2
        omega
      obtain ⟨below, left, hbelow, hleft⟩ :=
        exists_forest_of_stepsFrom nodes hsteps hbounds
      have hnothing : left = [] := by
        cases left with
        | nil => rfl
        | cons m left =>
            obtain ⟨e, hlater⟩ :
                ∃ e, stepsFrom e ((m :: left).map (·.depth)) = true := by
              apply exists_stepsFrom_of_append
              rw [← List.map_append, ← hbelow]
              exact hsteps
            have hlow := (head_of_stepsFrom hlater m rfl).1
            have hhigh := hleft m rfl
            omega
      rw [hnothing, List.append_nil] at hbelow
      refine Or.inr ⟨⟨n, below⟩, ?_⟩
      rw [listing, ← hbelow, ← hroot]

end OrderedTree

namespace SyntaxTree

/-- The depths of the nodes in order are the listed ones. -/
theorem map_depth_range' (t : SyntaxTree) :
    (List.range' 0 t.size).map t.depth = t.nodes.toList.map (·.depth) := by
  apply List.ext_getElem
  · simp [size]
  · intro i hi hi'
    rw [List.getElem_map, List.getElem_range', Nat.zero_add, Nat.one_mul,
      depth_eq_getD, List.getD_eq_getElem?_getD, List.getElem?_eq_getElem hi',
      Option.getD_some]

/-- A syntax tree as the arena of an ordered tree: nodes are numbered in
pre-order, the links are those of the tree, and the walks along them go through
the numbers in order. -/
structure IsArenaOf (t : SyntaxTree) (tree : OrderedTree) : Prop where
  nodes_eq : t.nodes.toList = tree.listing
  size_eq : t.size = tree.size
  parents_eq : (List.range t.size).map t.parent? = tree.parents
  root_iff : ∀ i, i < t.size → (t.parent? i = none ↔ i = 0)
  parent_lt : ∀ c p, t.parent? c = some p → p < c
  mem_children_iff : ∀ p c, c ∈ t.children p ↔ t.parent? c = some p
  children_ascending : ∀ p, (t.children p).Pairwise (· < ·)
  ancestors_eq : ∀ i, t.ancestors i =
    match t.parent? i with
    | none => []
    | some p => p :: t.ancestors p
  ancestors_descending : ∀ i, (t.ancestors i).Pairwise (· > ·)
  ancestors_end : ∀ i, t.ancestors i ≠ [] → (t.ancestors i).getLast? = some 0
  descendants_eq : ∀ i, i < t.size →
    t.descendants i = i :: (t.children i).flatMap t.descendants
  descendants_consecutive : ∀ i, i < t.size →
    t.descendants i = List.range' i (t.descendants i).length
  mem_descendants_iff : ∀ i, i < t.size → ∀ n,
    n ∈ t.descendants i ↔ n = i ∨ i ∈ t.ancestors n

/-- The parents found in the listing of an ordered tree are the parents in the
tree. -/
theorem map_parent?_range {t : SyntaxTree} {tree : OrderedTree}
    (h : t.nodes.toList = tree.listing) (hsize : t.size = tree.size) :
    (List.range t.size).map t.parent? = tree.parents := by
  have hdepths := t.map_depth_range'
  rw [h, hsize, OrderedTree.size, OrderedTree.listing, List.range'_succ,
    List.map_cons, List.map_cons, List.cons.injEq] at hdepths
  have hlinks := tree.below.map_parent?_of_listing hdepths.2 Nat.zero_lt_one
    (by rw [t.depth_root]) (fun m hm hm' => by omega)
  rw [List.range_eq_range', hsize, OrderedTree.size, List.range'_succ,
    List.map_cons, hlinks, OrderedTree.parents]
  rfl

/-- A syntax tree with the listing of an ordered tree holds that tree. -/
theorem isArenaOf_of_listing {t : SyntaxTree} {tree : OrderedTree}
    (h : t.nodes.toList = tree.listing) : t.IsArenaOf tree := by
  have hsize : t.size = tree.size := by
    rw [size, ← Array.length_toList, h, OrderedTree.listing, List.length_cons,
      Forest.length_listing, OrderedTree.size]
  refine
    { nodes_eq := h
      size_eq := hsize
      parents_eq := map_parent?_range h hsize
      root_iff := fun i hi => SyntaxTree.parent?_eq_none_iff hi
      parent_lt := fun c p hp => (SyntaxTree.parent?_eq_some_iff.mp hp).1
      mem_children_iff := fun p c => SyntaxTree.mem_children_iff
      children_ascending := t.children_ascending
      ancestors_eq := t.ancestors_eq
      ancestors_descending := t.ancestors_descending
      ancestors_end := fun i hi => SyntaxTree.getLast?_ancestors hi
      descendants_eq := fun i hi => SyntaxTree.descendants_eq hi
      descendants_consecutive := fun i hi => ?_
      mem_descendants_iff := fun i hi n => SyntaxTree.mem_descendants_iff hi }
  obtain ⟨k, hk⟩ := t.descendants_eq_range' hi
  rw [hk, List.length_range']

/-- **Arenas.**  The listing of an ordered tree is accepted and makes an arena
of that tree; apart from the empty one, no other listing is accepted. -/
theorem ofNodes?_arena (source : String) :
    (∀ tree : OrderedTree, ∃ t,
      SyntaxTree.ofNodes? source tree.listing.toArray = some t ∧
        t.IsArenaOf tree) ∧
    ∀ nodes : Array Node,
      (∃ t, SyntaxTree.ofNodes? source nodes = some t) ↔
        nodes = #[] ∨ ∃ tree : OrderedTree, nodes = tree.listing.toArray := by
  have haccepted : ∀ tree : OrderedTree, ∃ t,
      SyntaxTree.ofNodes? source tree.listing.toArray = some t ∧
        t.IsArenaOf tree := by
    intro tree
    have hlisting :
        isPreorder (tree.listing.toArray.toList.map (·.depth)) = true :=
      tree.isPreorder_listing
    exact ⟨⟨source, tree.listing.toArray, hlisting⟩, dif_pos hlisting,
      isArenaOf_of_listing rfl⟩
  refine ⟨haccepted, fun nodes => ⟨?_, ?_⟩⟩
  · rintro ⟨t, ht⟩
    rw [ofNodes?] at ht
    split at ht
    · rename_i hlisting
      rcases OrderedTree.eq_listing_of_isPreorder hlisting with
        hnone | ⟨tree, htree⟩
      · exact Or.inl (Array.toList_eq_nil_iff.mp hnone)
      · exact Or.inr ⟨tree, by rw [← htree]⟩
    · cases ht
  · rintro (rfl | ⟨tree, rfl⟩)
    · exact ⟨_, dif_pos rfl⟩
    · obtain ⟨t, ht, _⟩ := haccepted tree
      exact ⟨t, ht⟩

end SyntaxTree

end CallGraph
